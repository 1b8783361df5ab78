import PassageMarkup.Proofs.Token.Paths
import PassageMarkup.Token.Query

/-!
# Traversals

The leaves and the errors of a tree are collected from a list of trees still to visit.  What such a
list yields is what its trees yield one after the other, so a collection of one tree is the one that
recursion over the tree makes.
-/

namespace PassageMarkup

namespace Token

mutual

/-- The tokens without children from left to right. -/
def frontier : Token → List Token
  | ⟨kind, start, stop, text, inner, children, place, fields, fault⟩ =>
    match children with
    | [] => [⟨kind, start, stop, text, inner, [], place, fields, fault⟩]
    | child :: others => frontierList (child :: others)

def frontierList : List Token → List Token
  | [] => []
  | token :: rest => token.frontier ++ frontierList rest

end

variable {token : Token}

theorem frontier_of_isEmpty (childless : token.children.isEmpty = true) :
    token.frontier = [token] := by
  obtain ⟨kind, start, stop, text, inner, children, place, fields, fault⟩ := token
  cases children with
  | nil => rw [frontier]
  | cons child others => contradiction

theorem frontier_of_children (parent : ¬token.children.isEmpty = true) :
    token.frontier = frontierList token.children := by
  obtain ⟨kind, start, stop, text, inner, children, place, fields, fault⟩ := token
  cases children with
  | nil => exact absurd rfl parent
  | cons child others => rw [frontier]

theorem frontierList_append (left right : List Token) :
    frontierList (left ++ right) = frontierList left ++ frontierList right := by
  induction left with
  | nil => rfl
  | cons token rest induction =>
      rw [List.cons_append, frontierList, frontierList, induction, List.append_assoc]

theorem leavesFrom_eq (pending : List Token) : leavesFrom pending = frontierList pending := by
  induction pending using leavesFrom.induct with
  | case1 => rw [leavesFrom, frontierList]
  | case2 token pending childless induction =>
      rw [leavesFrom, if_pos childless, induction, frontierList, frontier_of_isEmpty childless,
        List.singleton_append]
  | case3 token pending parent induction =>
      rw [leavesFrom, if_neg parent, induction, frontierList, frontier_of_children parent,
        frontierList_append]

theorem leaves_eq (token : Token) : token.leaves = token.frontier := by
  rw [leaves, leavesFrom_eq, frontierList, frontierList, List.append_nil]

theorem errorsFrom_eq (pending : List Token) :
    errorsFrom pending = (nodesList pending).filterMap located := by
  induction pending using errorsFrom.induct with
  | case1 => rw [errorsFrom, nodesList, List.filterMap_nil]
  | case2 token pending induction =>
      have visited : nodesList (token :: pending) =
          [token] ++ nodesList (token.children ++ pending) := by
        rw [nodesList, nodes_eq, nodesList_append]
        rfl
      rw [errorsFrom, induction, visited, List.filterMap_append]
      rfl

theorem errors_eq (token : Token) : token.errors = token.nodes.filterMap located := by
  rw [errors, errorsFrom_eq, nodesList, nodesList, List.append_nil]

theorem frontierList_eq {tokens : List Token}
    (each : ∀ token ∈ tokens, token.frontier = token.nodes.filter (·.children.isEmpty)) :
    frontierList tokens = (nodesList tokens).filter (·.children.isEmpty) := by
  induction tokens with
  | nil => rfl
  | cons token rest induction =>
      rw [List.forall_mem_cons] at each
      rw [frontierList, nodesList, List.filter_append, each.1, induction each.2]

/-- The leaves are the nodes without children. -/
theorem frontier_eq (token : Token) :
    token.frontier = token.nodes.filter (·.children.isEmpty) := by
  induction token using children_induction with
  | node token induction =>
      rw [nodes_eq]
      by_cases childless : token.children.isEmpty = true
      · have none : token.children = [] := List.isEmpty_iff.mp childless
        rw [frontier_of_isEmpty childless, List.filter_cons, if_pos childless, none]
        rfl
      · rw [frontier_of_children childless, List.filter_cons, if_neg childless,
          frontierList_eq induction]

/-- The leaves of a tree are its tokens without children from left to right, and a predicate holds
of every leaf when it holds of each of these.  The errors are the faults of its nodes, each node
before its children.  Nodes and leaves are listed once for each path that leads to them. -/
theorem traversals_eq (token : Token) :
    token.leaves = token.frontier ∧
      (∀ predicate, token.everyLeaf predicate = true ↔
        ∀ leaf ∈ token.frontier, predicate leaf = true) ∧
      token.errors = token.nodes.filterMap located ∧
      ∃ visits, token.InOrder visits ∧ token.nodes = visits.map Prod.snd ∧
        token.frontier = (visits.filter (·.2.children.isEmpty)).map Prod.snd := by
  refine ⟨leaves_eq token, ?_, errors_eq token, token.visits, visits_inOrder token, ?_, ?_⟩
  · intro predicate
    rw [everyLeaf, leaves_eq, List.all_eq_true]
  · exact (map_snd_visits token).symm
  · rw [frontier_eq, ← map_snd_visits, List.filter_map]
    rfl

end Token

end PassageMarkup
