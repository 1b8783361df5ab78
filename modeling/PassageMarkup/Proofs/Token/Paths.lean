import Mathlib.Data.List.Lex
import PassageMarkup.Proofs.Token.Nodes

/-!
# Paths in a tree

A path says which child to take at each level, so each place of a tree has its own path, also where
two equal tokens stand at different places.  Sorted by their paths, the nodes of a tree come from
left to right and each before its children.
-/

namespace PassageMarkup

namespace Token

/-- The token to which a path leads from a token. -/
def follow : List Nat → Token → Option Token
  | [], token => some token
  | index :: path, token => token.children[index]?.bind (follow path)

/-- The nodes of a tree, each once with the path that leads to it, in the order of the paths. -/
structure InOrder (token : Token) (visits : List (List Nat × Token)) : Prop where
  sorted : visits.Pairwise fun earlier later => List.Lex (· < ·) earlier.1 later.1
  mem_iff : ∀ path node, (path, node) ∈ visits ↔ token.follow path = some node

mutual

/-- The nodes of a tree with their paths, each before its children. -/
def visits : Token → List (List Nat × Token)
  | ⟨kind, start, stop, text, inner, children, place, fields, fault⟩ =>
    ([], ⟨kind, start, stop, text, inner, children, place, fields, fault⟩) ::
      visitsFrom 0 children

/-- The nodes of a list of trees, of which the first one has the given number. -/
def visitsFrom (index : Nat) : List Token → List (List Nat × Token)
  | [] => []
  | token :: rest => token.visits.map (Prod.map (index :: ·) id) ++ visitsFrom (index + 1) rest

end

variable {token node : Token} {tokens : List Token} {path : List Nat} {index : Nat}

theorem visits_eq (token : Token) : token.visits = ([], token) :: visitsFrom 0 token.children := by
  cases token
  rfl

theorem mem_visitsFrom :
    (path, node) ∈ visitsFrom index tokens ↔
      ∃ place child further, tokens[place]? = some child ∧ path = (index + place) :: further ∧
        (further, node) ∈ child.visits := by
  induction tokens generalizing index with
  | nil => simp [visitsFrom]
  | cons token rest induction =>
      rw [visitsFrom, List.mem_append, induction]
      constructor
      · rintro (first | ⟨place, child, further, present, rfl, member⟩)
        · obtain ⟨⟨further, _⟩, member, same⟩ := List.mem_map.mp first
          cases same
          exact ⟨0, token, further, rfl, rfl, member⟩
        · refine ⟨place + 1, child, further, present, ?_, member⟩
          rw [Nat.add_assoc, Nat.add_comm 1]
      · rintro ⟨place, child, further, present, rfl, member⟩
        cases place with
        | zero =>
            cases present
            exact .inl (List.mem_map.mpr ⟨_, member, rfl⟩)
        | succ place =>
            refine .inr ⟨place, child, further, present, ?_, member⟩
            rw [Nat.add_assoc, Nat.add_comm 1]

theorem mem_visits : (path, node) ∈ token.visits ↔ token.follow path = some node := by
  induction path generalizing token with
  | nil =>
      rw [visits_eq, List.mem_cons, mem_visitsFrom, follow]
      simp [eq_comm]
  | cons index path induction =>
      rw [visits_eq, List.mem_cons, mem_visitsFrom, follow, Option.bind_eq_some_iff]
      simp [induction]

theorem pairwise_visitsFrom
    (each : ∀ token ∈ tokens, token.visits.Pairwise fun earlier later =>
      List.Lex (· < ·) earlier.1 later.1) :
    (visitsFrom index tokens).Pairwise fun earlier later =>
      List.Lex (· < ·) earlier.1 later.1 := by
  induction tokens generalizing index with
  | nil => exact .nil
  | cons token rest induction =>
      rw [List.forall_mem_cons] at each
      rw [visitsFrom, List.pairwise_append, List.pairwise_map]
      refine ⟨?_, induction each.2, ?_⟩
      · exact each.1.imp fun before => .cons before
      · rintro visit first ⟨path, node⟩ later
        obtain ⟨inner, _, rfl⟩ := List.mem_map.mp first
        obtain ⟨place, _, further, _, rfl, _⟩ := mem_visitsFrom.mp later
        apply List.Lex.rel
        omega

theorem pairwise_visits (token : Token) :
    token.visits.Pairwise fun earlier later => List.Lex (· < ·) earlier.1 later.1 := by
  induction token using children_induction with
  | node token induction =>
      rw [visits_eq, List.pairwise_cons]
      refine ⟨?_, pairwise_visitsFrom induction⟩
      rintro ⟨path, node⟩ below
      obtain ⟨place, _, further, _, rfl, _⟩ := mem_visitsFrom.mp below
      exact .nil

theorem visits_inOrder (token : Token) : token.InOrder token.visits :=
  ⟨pairwise_visits token, fun _ _ => mem_visits⟩

mutual

theorem map_snd_visits (token : Token) : token.visits.map Prod.snd = token.nodes := by
  obtain ⟨kind, start, stop, text, inner, children, place, fields, fault⟩ := token
  rw [visits, nodes, List.map_cons, map_snd_visitsFrom]

theorem map_snd_visitsFrom (index : Nat) (tokens : List Token) :
    (visitsFrom index tokens).map Prod.snd = nodesList tokens := by
  match tokens with
  | [] => rfl
  | token :: rest =>
      have kept : (token.visits.map (Prod.map (index :: ·) id)).map Prod.snd =
          token.visits.map Prod.snd := by
        rw [List.map_map]
        rfl
      rw [visitsFrom, nodesList, List.map_append, kept, map_snd_visits, map_snd_visitsFrom]

end

end Token

end PassageMarkup
