import PassageMarkup.Proofs.Scan.Pairing
import PassageMarkup.Scan.Indexed

/-!
# Nodes and frames

The nodes of a scan with the indices of its open fronts represent a stack of frames: each index is
that of the front of a frame, and the nodes between two fronts are the tokens between them.
-/

namespace PassageMarkup

namespace Scan

variable {base : Nat} {nodes : List Node} {stack : List Nat} {frame : Frame}
  {frames inner outer : List Frame} {siblings : List Token} {rule : Rule} {arity : Nat}

/-- The node of an open front. -/
def Frame.node (frame : Frame) : Node :=
  ⟨frame.front, some frame.rule, frame.arity⟩

@[simp] theorem Frame.node_token (frame : Frame) : frame.node.token = frame.front :=
  rfl

@[simp] theorem Frame.node_rule (frame : Frame) : frame.node.rule = some frame.rule :=
  rfl

@[simp] theorem Frame.node_arity (frame : Frame) : frame.node.arity = frame.arity :=
  rfl

/-- A pairing by the number of fronts around the pair. -/
def Pairing.partner (pairing : Pairing) : Partner :=
  ⟨pairing.outer.length, pairing.kind⟩

/-- Nodes, of which the first has the index `base`, represent the tokens of frames and the siblings
after the last front. -/
inductive Represents (base : Nat) :
    List Node → List Nat → List Frame → List Token → Prop where
  | nil {nodes : List Node} {siblings : List Token} :
      nodes.map Node.token = siblings.reverse →
      Represents base nodes [] [] siblings
  | cons {before after : List Node} {stack : List Nat} {frame : Frame} {outer : List Frame}
      {siblings : List Token} :
      Represents base before stack outer frame.before →
      after.map Node.token = siblings.reverse →
      Represents base (before ++ frame.node :: after) (stack ++ [base + before.length])
        (frame :: outer) siblings

namespace Represents

theorem length_stack (represents : Represents base nodes stack frames siblings) :
    stack.length = frames.length := by
  induction represents with
  | nil => rfl
  | cons _ _ induction => simp [induction]

theorem map_token (represents : Represents base nodes stack frames siblings) :
    nodes.map Node.token = (siblings ++ Frame.tokens frames).reverse := by
  induction represents with
  | nil tokens => simp [tokens, Frame.tokens]
  | cons _ tokens induction => simp [induction, tokens, Frame.node]

theorem bounds (represents : Represents base nodes stack frames siblings) :
    ∀ index ∈ stack, base ≤ index ∧ index < base + nodes.length := by
  induction represents with
  | nil => simp
  | cons _ _ induction =>
      intro index member
      rw [List.length_append, List.length_cons]
      rcases List.mem_append.mp member with deeper | last
      · have := induction index deeper
        omega
      · have := List.mem_singleton.mp last
        omega

theorem increasing (represents : Represents base nodes stack frames siblings) :
    stack.Pairwise (· < ·) := by
  induction represents with
  | nil => exact .nil
  | cons deeper _ induction =>
      rw [List.pairwise_append]
      refine ⟨induction, List.pairwise_singleton _ _, ?_⟩
      intro index member last isLast
      rw [List.mem_singleton.mp isLast]
      exact (deeper.bounds index member).2

theorem append (represents : Represents base nodes stack frames siblings) (more : List Node) :
    Represents base (nodes ++ more) stack frames ((more.map Node.token).reverse ++ siblings) := by
  cases represents with
  | nil tokens => exact .nil (by simp [tokens])
  | cons deeper tokens =>
      rw [List.append_assoc, List.cons_append]
      exact .cons deeper (by simp [tokens])

theorem concat (represents : Represents base nodes stack frames siblings) (node : Node) :
    Represents base (nodes ++ [node]) stack frames (node.token :: siblings) :=
  represents.append [node]

theorem concat_front (represents : Represents base nodes stack frames siblings) (rule : Rule)
    (arity : Nat) (front : Token) :
    Represents base (nodes ++ [⟨front, some rule, arity⟩]) (stack ++ [base + nodes.length])
      (⟨rule, arity, front, siblings⟩ :: frames) [] :=
  @Represents.cons base nodes [] stack ⟨rule, arity, front, siblings⟩ frames [] represents rfl

/-- Each frame splits the nodes: before its front are those of the frames around it, and after its
front those of the frames inside it. -/
theorem split (represents : Represents base nodes stack (inner ++ frame :: outer) siblings) :
    ∃ before after outside inside, nodes = before ++ frame.node :: after ∧
      stack = outside ++ (base + before.length) :: inside ∧
        Represents base before outside outer frame.before ∧
          Represents (base + before.length + 1) after inside inner siblings := by
  induction inner generalizing nodes stack siblings with
  | nil =>
      cases represents with
      | cons deeper tokens => exact ⟨_, _, _, [], rfl, rfl, deeper, .nil tokens⟩
  | cons first inner induction =>
      cases represents with
      | @cons _ last _ _ _ _ deeper tokens =>
          obtain ⟨before, after, outside, inside, rfl, rfl, around, within⟩ := induction deeper
          have index : base + (before ++ frame.node :: after).length =
              base + before.length + 1 + after.length := by
            simp only [List.length_append, List.length_cons]
            omega
          refine ⟨before, after ++ first.node :: last, outside,
            inside ++ [base + before.length + 1 + after.length], by simp, ?_, around,
            .cons within tokens⟩
          rw [index, List.append_assoc]
          rfl

theorem innermost (represents : Represents 0 nodes stack frames siblings) :
    stack.getLast? = none ∧ frames.head? = none ∨
      ∃ index frame, stack.getLast? = some index ∧ frames.head? = some frame ∧
        nodes[index]? = some frame.node := by
  cases represents with
  | nil => exact .inl ⟨rfl, rfl⟩
  | cons => exact .inr ⟨_, _, List.getLast?_concat, rfl, by simp⟩

theorem split_at_place {pairing : Pairing}
    (represents : Represents 0 nodes stack
      (pairing.abandoned ++ pairing.frame :: pairing.outer) siblings) :
    ∃ before after outside inside, nodes = before ++ pairing.frame.node :: after ∧
      stack[pairing.partner.place]? = some before.length ∧
        stack.take pairing.partner.place = outside ∧
        stack.drop (pairing.partner.place + 1) = inside ∧
          Represents 0 before outside pairing.outer pairing.frame.before ∧
            Represents (before.length + 1) after inside pairing.abandoned siblings := by
  obtain ⟨before, after, outside, inside, whole, rfl, around, within⟩ := represents.split
  have place : pairing.partner.place = outside.length := around.length_stack.symm
  rw [Nat.zero_add] at within ⊢
  rw [place]
  exact ⟨before, after, outside, inside, whole, by simp, List.take_left,
    by simp [← List.drop_drop], around, within⟩

theorem exists_frame (represents : Represents base nodes stack frames siblings) {index : Nat}
    (member : index ∈ stack) :
    ∃ frame ∈ frames, base ≤ index ∧ nodes[index - base]? = some frame.node := by
  induction represents with
  | nil => contradiction
  | @cons before after _ frame outer _ deeper _ induction =>
      rcases List.mem_append.mp member with inside | last
      · obtain ⟨other, isFrame, low, here⟩ := induction inside
        refine ⟨other, List.mem_cons_of_mem _ isFrame, low, ?_⟩
        rw [List.getElem?_append_left (List.getElem?_eq_some_iff.mp here).1]
        exact here
      · rw [List.mem_singleton.mp last, Nat.add_sub_cancel_left]
        exact ⟨frame, List.mem_cons_self, Nat.le_add_right _ _, by simp⟩

theorem partner?_eq (represents : Represents 0 nodes stack frames siblings) (rule : Rule)
    (arity : Nat) (more : List Node) :
    Node.partner? (nodes ++ more) rule arity stack.reverse =
      some ((Frame.pairing? rule arity frames).map Pairing.partner) := by
  induction represents generalizing more with
  | nil => rfl
  | @cons before after stack frame outer siblings deeper tokens induction =>
      have later := induction (frame.node :: after ++ more)
      rw [← List.append_assoc] at later
      have here : (before ++ frame.node :: after ++ more)[0 + before.length]? =
          some frame.node := by
        simp
      have around : stack.reverse.length = outer.length := by
        rw [List.length_reverse, deeper.length_stack]
      rw [List.reverse_append, List.reverse_singleton, List.singleton_append, Node.partner?, here,
        Frame.pairing?]
      simp only [Frame.node_token, Frame.node_rule, Frame.node_arity, Option.bind_some]
      cases rule.resolves frame.front.kind frame.rule.aka frame.arity arity with
      | some kind =>
          rw [around]
          rfl
      | none =>
          by_cases stops : rule.stopsAt frame.front.kind frame.rule.aka = true
          · simp only [stops, if_true, Option.map_none]
          · simp only [stops, Bool.false_eq_true, if_false, later, Option.map_map]
            rfl

/-- Nodes whose indices are not among those of open fronts are not given up. -/
theorem inPair_of_absent {abandoned : List Nat} {start : Nat}
    (absent : ∀ index ∈ abandoned, index < start ∨ start + nodes.length ≤ index) :
    (nodes.zipIdx start).map (Node.inPair abandoned) = nodes.map Node.token ∧
      (nodes.zipIdx start).filterMap (Node.demotion? abandoned) = [] := by
  induction nodes generalizing start with
  | nil => exact ⟨rfl, rfl⟩
  | cons node nodes induction =>
      rw [List.length_cons] at absent
      have notHere : start ∉ abandoned := by
        intro member
        have := absent start member
        omega
      obtain ⟨tokens, demotions⟩ := @induction (start + 1) (by
        intro index member
        have := absent index member
        omega)
      constructor
      · simp [Node.inPair, notHere, tokens]
      · simp [Node.demotion?, notHere, demotions]

theorem inPair_eq (represents : Represents base nodes stack frames siblings) (later : List Nat)
    (beyond : ∀ index ∈ later, base + nodes.length ≤ index) :
    (nodes.zipIdx base).map (Node.inPair (stack ++ later)) =
        (Frame.unwind siblings frames).reverse ∧
      (nodes.zipIdx base).filterMap (Node.demotion? (stack ++ later)) =
        (frames.map Frame.demotion).reverse := by
  -- The front of the last frame is one of the indices behind the nodes before it.
  induction represents generalizing later with
  | nil tokens =>
      obtain ⟨kept, demotions⟩ := inPair_of_absent fun index member => .inr (beyond index member)
      rw [List.nil_append, kept, demotions, tokens]
      exact ⟨rfl, rfl⟩
  | @cons before after stack frame outer siblings deeper tokens induction =>
      rw [List.length_append, List.length_cons] at beyond
      obtain ⟨front, demotions⟩ := induction ((base + before.length) :: later) (by
        rw [List.forall_mem_cons]
        refine ⟨Nat.le_refl _, fun index member => ?_⟩
        have := beyond index member
        omega)
      have others : ∀ index ∈ stack ++ (base + before.length) :: later,
          index < base + before.length + 1 ∨
            base + before.length + 1 + after.length ≤ index := by
        intro index member
        rcases List.mem_append.mp member with inside | outside
        · have := deeper.bounds index inside
          omega
        · rcases List.mem_cons.mp outside with same | last
          · omega
          · have := beyond index last
            omega
      obtain ⟨kept, silent⟩ := inPair_of_absent others
      have here : (stack ++ (base + before.length) :: later).contains (base + before.length) =
          true := by
        simp
      rw [List.append_assoc, List.singleton_append, List.zipIdx_append, List.zipIdx_cons]
      constructor
      · rw [List.map_append, List.map_cons, front, kept, tokens, Node.inPair, here]
        simp [Frame.unwind_eq, Frame.demotedTokens, Node.demote]
      · rw [List.filterMap_append, List.filterMap_cons, demotions, silent, Node.demotion?, here]
        simp [Node.demotion, Frame.demotion]

/-- Giving up the fronts with the indices of a stack gives up those of the frames. -/
theorem foldlM_demote?_eq (represents : Represents base nodes stack frames siblings)
    (left right : List Node) (length : left.length = base) (indexed : Indexed)
    (whole : indexed.nodes = left ++ nodes ++ right) :
    ∃ after, after.length = nodes.length ∧
      after.map Node.token = (Frame.unwind siblings frames).reverse ∧
        stack.foldlM Indexed.demote? indexed =
          some { indexed with
            nodes := left ++ after ++ right
            events := frames.map Frame.demotion ++ indexed.events } := by
  -- The last front and what follows it stand on the right of the nodes that are given up first.
  induction represents generalizing right with
  | nil tokens =>
      refine ⟨_, rfl, tokens, ?_⟩
      rw [← whole]
      rfl
  | @cons before after stack frame outer siblings deeper tokens induction =>
      obtain ⟨given, same, givenTokens, run⟩ :=
        induction (frame.node :: after ++ right) (by rw [whole]; simp)
      have place : (left ++ given ++ (frame.node :: after ++ right))[base + before.length]? =
          some frame.node := by
        rw [← length, ← same]
        simp
      refine ⟨given ++ frame.node.demote :: after, by simp [same], ?_, ?_⟩
      · simp [givenTokens, tokens, Frame.unwind_eq, Frame.demotedTokens, Node.demote]
      · rw [List.foldlM_append, run]
        simp only [List.foldlM_cons, List.foldlM_nil, Option.bind_eq_bind, Option.bind_some,
          Indexed.demote?, place, Option.map_some]
        have index : base + before.length = (left ++ given).length := by
          rw [List.length_append, length, same]
        rw [index, List.set_append_right _ _ (Nat.le_refl _), Nat.sub_self]
        simp [Node.demotion, Frame.demotion]

end Represents

end Scan

end PassageMarkup
