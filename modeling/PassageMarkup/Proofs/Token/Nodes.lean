import Mathlib.Data.List.Chain
import PassageMarkup.Token.Basic

/-!
# The nodes of a tree

A tree's nodes are listed with each token before its children.  A property holds everywhere in a
tree when it holds of its root and everywhere in the trees below.
-/

namespace PassageMarkup

namespace Token

mutual

/-- A token and all tokens below it, each before its children. -/
def nodes : Token → List Token
  | ⟨kind, start, stop, text, inner, children, place, fields, fault⟩ =>
    ⟨kind, start, stop, text, inner, children, place, fields, fault⟩ :: nodesList children

def nodesList : List Token → List Token
  | [] => []
  | token :: rest => token.nodes ++ nodesList rest

end

theorem nodes_eq (token : Token) : token.nodes = token :: nodesList token.children := by
  cases token
  rfl

theorem nodesList_cons (token : Token) (rest : List Token) :
    nodesList (token :: rest) = token.nodes ++ nodesList rest :=
  rfl

theorem nodesList_append (left right : List Token) :
    nodesList (left ++ right) = nodesList left ++ nodesList right := by
  induction left with
  | nil => rfl
  | cons token rest induction =>
      rw [List.cons_append, nodesList_cons, nodesList_cons, induction, List.append_assoc]

theorem mem_nodesList {node : Token} {tokens : List Token} :
    node ∈ nodesList tokens ↔ ∃ token ∈ tokens, node ∈ token.nodes := by
  induction tokens with
  | nil =>
      constructor
      · exact nofun
      · exact nofun
  | cons token rest induction =>
      rw [nodesList_cons, List.mem_append, List.exists_mem_cons_iff, induction]

theorem mem_nodes {node token : Token} :
    node ∈ token.nodes ↔ node = token ∨ node ∈ nodesList token.children := by
  rw [nodes_eq, List.mem_cons]

theorem mem_nodes_of_below {node token : Token} (below : node ∈ nodesList token.children) :
    node ∈ token.nodes :=
  mem_nodes.mpr (.inr below)

/-- A property holds of a token and of all tokens below it. -/
def Everywhere (property : Token → Prop) (token : Token) : Prop :=
  ∀ node ∈ token.nodes, property node

theorem everywhere_iff {property : Token → Prop} {token : Token} :
    token.Everywhere property ↔
      property token ∧ ∀ child ∈ token.children, child.Everywhere property := by
  unfold Everywhere
  rw [nodes_eq, List.forall_mem_cons]
  apply and_congr_right
  intro _
  constructor
  · intro below child member node inside
    exact below node (mem_nodesList.mpr ⟨child, member, inside⟩)
  · intro below node inside
    obtain ⟨child, member, inChild⟩ := mem_nodesList.mp inside
    exact below child member node inChild

theorem Everywhere.here {property : Token → Prop} {token : Token}
    (everywhere : token.Everywhere property) : property token :=
  (everywhere_iff.mp everywhere).1

theorem Everywhere.child {property : Token → Prop} {token child : Token}
    (everywhere : token.Everywhere property) (member : child ∈ token.children) :
    child.Everywhere property :=
  (everywhere_iff.mp everywhere).2 child member

theorem everywhere_of_children_eq_nil {property : Token → Prop} {token : Token}
    (childless : token.children = []) (here : property token) : token.Everywhere property :=
  everywhere_iff.mpr ⟨here, by simp [childless]⟩

theorem size_lt_of_mem_children {token child : Token} (member : child ∈ token.children) :
    child.size < token.size := by
  obtain ⟨before, after, split⟩ := List.append_of_mem member
  rw [size_eq token, split, sizeList_append, sizeList]
  omega

theorem children_induction {property : Token → Prop}
    (node : ∀ token, (∀ child ∈ token.children, property child) → property token)
    (token : Token) : property token :=
  node token fun child _ => children_induction node child
termination_by token.size
decreasing_by exact size_lt_of_mem_children ‹_›

theorem Everywhere.everywhere {property : Token → Prop} {token : Token}
    (everywhere : token.Everywhere property) : token.Everywhere (Everywhere property) := by
  induction token using children_induction with
  | node token induction =>
      rw [everywhere_iff]
      exact ⟨everywhere, fun child member => induction child member (everywhere.child member)⟩

theorem Everywhere.imp {property weaker : Token → Prop} {token : Token}
    (everywhere : token.Everywhere property) (implies : ∀ node, property node → weaker node) :
    token.Everywhere weaker :=
  fun node inside => implies node (everywhere node inside)

/-- A property holds of some token in a list of trees. -/
def Somewhere (property : Token → Prop) (tokens : List Token) : Prop :=
  ∃ node ∈ nodesList tokens, property node

section Somewhere

variable {property : Token → Prop} {tokens others : List Token} {token : Token}

theorem nodesList_subset (subset : tokens ⊆ others) : nodesList tokens ⊆ nodesList others := by
  intro node member
  obtain ⟨root, inside, below⟩ := mem_nodesList.mp member
  exact mem_nodesList.mpr ⟨root, subset inside, below⟩

theorem Somewhere.mono (holds : Somewhere property tokens) (subset : tokens ⊆ others) :
    Somewhere property others := by
  obtain ⟨node, member, here⟩ := holds
  exact ⟨node, nodesList_subset subset member, here⟩

theorem somewhere_append {left right : List Token} :
    Somewhere property (left ++ right) ↔ Somewhere property left ∨ Somewhere property right := by
  constructor
  · rintro ⟨node, member, here⟩
    obtain ⟨root, inside, below⟩ := mem_nodesList.mp member
    rcases List.mem_append.mp inside with before | after
    · exact .inl ⟨node, mem_nodesList.mpr ⟨root, before, below⟩, here⟩
    · exact .inr ⟨node, mem_nodesList.mpr ⟨root, after, below⟩, here⟩
  · rintro (before | after)
    · exact before.mono (List.subset_append_left _ _)
    · exact after.mono (List.subset_append_right _ _)

theorem somewhere_cons :
    Somewhere property (token :: others) ↔ Somewhere property [token] ∨ Somewhere property others :=
  @somewhere_append property [token] others

theorem nodesList_children_subset (member : token ∈ nodesList tokens) :
    nodesList token.children ⊆ nodesList tokens := by
  obtain ⟨root, isRoot, inRoot⟩ := mem_nodesList.mp member
  have inside : root.Everywhere (· ∈ root.nodes) := fun _ member => member
  intro node below
  exact mem_nodesList.mpr
    ⟨root, isRoot, inside.everywhere token inRoot node (mem_nodes_of_below below)⟩

theorem mem_nodesList_of_mem (member : token ∈ tokens) : token ∈ nodesList tokens :=
  mem_nodesList.mpr ⟨token, member, by simp [nodes_eq]⟩

theorem Somewhere.ofChildren (holds : Somewhere property token.children) :
    Somewhere property [token] := by
  obtain ⟨node, below, here⟩ := holds
  exact ⟨node, nodesList_children_subset (mem_nodesList_of_mem (by simp)) below, here⟩

end Somewhere

section Parents

variable {root parent child node : Token}

theorem mem_nodesList_of_child (isParent : parent ∈ root.nodes) (member : child ∈ parent.children) :
    child ∈ nodesList root.children := by
  rcases mem_nodes.mp isParent with rfl | below
  · exact mem_nodesList_of_mem member
  · exact nodesList_children_subset below (mem_nodesList_of_mem member)

theorem exists_parent (below : node ∈ nodesList root.children) :
    ∃ parent ∈ root.nodes, node ∈ parent.children := by
  induction root using children_induction with
  | node root induction =>
      obtain ⟨child, member, inChild⟩ := mem_nodesList.mp below
      rcases mem_nodes.mp inChild with rfl | deeper
      · exact ⟨root, by simp [nodes_eq], member⟩
      · obtain ⟨parent, isParent, isChild⟩ := induction child member deeper
        have inRoot : parent ∈ nodesList root.children :=
          mem_nodesList.mpr ⟨child, member, isParent⟩
        exact ⟨parent, mem_nodes_of_below inRoot, isChild⟩

end Parents

theorem isPlainText_iff {token : Token} :
    token.isPlainText = true ↔ token.kind = .text ∧ token.children = [] := by
  simp [isPlainText]

theorem coalesce_cons_of_not_plain {token : Token} (rest : List Token)
    (notPlain : token.isPlainText = false) :
    coalesce (token :: rest) = token :: coalesce rest := by
  simp only [coalesce]
  split
  · rename_i joined
    rw [joined]
  · rename_i next others joined
    rw [joined]
    simp [notPlain]

/-- A token other than plain text keeps the texts on both sides apart. -/
theorem coalesce_append_cons {token : Token} (left right : List Token)
    (notPlain : token.isPlainText = false) :
    coalesce (left ++ token :: right) = coalesce left ++ token :: coalesce right := by
  induction left with
  | nil => exact coalesce_cons_of_not_plain right notPlain
  | cons first rest induction =>
      rw [List.cons_append, coalesce, induction]
      cases joined : coalesce rest with
      | nil => simp [coalesce, joined, notPlain]
      | cons next others =>
          simp only [coalesce, joined, List.cons_append]
          split <;> rfl

/-- Joining keeps what holds of every token when it holds of a joined text as soon as it holds of
the two texts. -/
theorem forall_mem_coalesce {property : Token → Prop}
    (join : ∀ token next : Token, token.isPlainText = true → next.isPlainText = true →
      property token → property next →
      property { token with text := token.text ++ next.text, stop := next.stop })
    {tokens : List Token} (each : ∀ token ∈ tokens, property token) :
    ∀ token ∈ coalesce tokens, property token := by
  induction tokens with
  | nil => simp [coalesce]
  | cons first rest induction =>
      have firstHolds : property first := each first (by simp)
      have restHolds := induction fun token member => each token (by simp [member])
      simp only [coalesce]
      split
      · simpa using firstHolds
      · rename_i next others joined
        rw [joined] at restHolds
        have nextHolds : property next := restHolds next (by simp)
        have othersHold : ∀ token ∈ others, property token :=
          fun token member => restHolds token (by simp [member])
        split
        · rename_i plain
          rw [Bool.and_eq_true] at plain
          rw [List.forall_mem_cons]
          exact ⟨join first next plain.1 plain.2 firstHolds nextHolds, othersHold⟩
        · simp only [List.forall_mem_cons]
          exact ⟨firstHolds, nextHolds, othersHold⟩

theorem mem_of_mem_coalesce {token : Token} {tokens : List Token}
    (member : token ∈ coalesce tokens) (notPlain : token.isPlainText = false) : token ∈ tokens := by
  have kept : ∀ token ∈ coalesce tokens, token.isPlainText = false → token ∈ tokens := by
    apply forall_mem_coalesce
    · intro first next plain _ _ _ notPlain
      obtain ⟨isText, childless⟩ := isPlainText_iff.mp plain
      rw [isPlainText, isText, childless] at notPlain
      contradiction
    · intro token member _
      exact member
  exact kept token member notPlain

theorem exists_coalesce_cons {token : Token} (rest : List Token)
    (plain : token.isPlainText = true) :
    ∃ first others, coalesce (token :: rest) = first :: others ∧ first.isPlainText = true ∧
      token.text <+: first.text := by
  simp only [coalesce]
  split
  · exact ⟨token, [], rfl, plain, List.prefix_rfl⟩
  · rename_i next others joined
    split
    · exact ⟨_, others, rfl, plain, List.prefix_append _ _⟩
    · exact ⟨token, next :: others, rfl, plain, List.prefix_rfl⟩

@[simp] theorem isPlainText_demote (token : Token) : token.demote.isPlainText = true :=
  rfl

theorem exists_coalesce_plain {token : Token} {texts : List Token} (rest : List Token)
    (plain : ∀ text ∈ token :: texts, text.isPlainText = true) :
    ∃ first others, coalesce (token :: texts ++ rest) = first :: others ∧
      first.isPlainText = true ∧ textOf (token :: texts) <+: first.text := by
  induction texts generalizing token with
  | nil =>
      obtain ⟨first, others, joined, isPlain, begins⟩ :=
        exists_coalesce_cons rest (plain token List.mem_cons_self)
      refine ⟨first, others, joined, isPlain, ?_⟩
      rw [textOf, List.flatMap_singleton]
      exact begins
  | cons next texts induction =>
      rw [List.forall_mem_cons] at plain
      obtain ⟨first, others, joined, isPlain, begins⟩ := induction plain.2
      have both : (token.isPlainText && first.isPlainText) = true := by
        rw [plain.1, isPlain]
        rfl
      refine ⟨{ token with text := token.text ++ first.text, stop := first.stop }, others, ?_,
        plain.1, ?_⟩
      · rw [List.cons_append, coalesce, joined]
        exact if_pos both
      · rw [textOf, List.flatMap_cons]
        exact (List.prefix_append_right_inj _).mpr begins

/-- After joining, plain texts have no plain texts as neighbours. -/
theorem coalesce_isChain (tokens : List Token) :
    (coalesce tokens).IsChain fun left right =>
      left.isPlainText = false ∨ right.isPlainText = false := by
  induction tokens with
  | nil => exact .nil
  | cons first rest induction =>
      simp only [coalesce]
      split
      · exact .singleton first
      · rename_i next others joined
        rw [joined] at induction
        split
        · rename_i plain
          rw [Bool.and_eq_true] at plain
          cases others with
          | nil => exact .singleton _
          | cons after others =>
              rw [List.isChain_cons_cons] at induction ⊢
              have afterNotPlain := induction.1.resolve_left (by simp [plain.2])
              exact ⟨.inr afterNotPlain, induction.2⟩
        · rename_i notPlain
          rw [Bool.not_eq_true, Bool.and_eq_false_iff] at notPlain
          exact .cons_cons notPlain induction

end Token

end PassageMarkup
