import PassageMarkup.Proofs.Token.Laid

/-!
# Ranges in a tree

Where the children of a token lie side by side inside its range, so do those of every token below.
Two tokens of such a tree then stand one inside the other or one after the other.
-/

namespace PassageMarkup

namespace Token

variable {source : Text} {token root parent left right node : Token}
  {tokens before after : List Token} {first last : Nat}

/-- The children of a token lie side by side inside its range. -/
def Encloses (source : Text) (token : Token) : Prop :=
  ∃ first last, Laid source first token.children last ∧ token.start ≤ first ∧ last ≤ token.stop

theorem encloses_of_placed (placed : token.Everywhere (Placed source)) : token.Encloses source := by
  obtain ⟨here, below⟩ := everywhere_iff.mp placed
  obtain ⟨first, last, tiles, start, stop⟩ := here.children_tile
  exact ⟨first, last, tiles.laid below, start, stop⟩

theorem Encloses.nodes_inside (encloses : token.Encloses source) :
    ∀ node ∈ token.nodes, token.start ≤ node.start ∧ node.stop ≤ token.stop := by
  induction token using children_induction with
  | node token induction =>
      obtain ⟨first, last, laid, start, stop⟩ := encloses
      intro node inside
      rcases mem_nodes.mp inside with rfl | below
      · exact ⟨Nat.le_refl _, Nat.le_refl _⟩
      · obtain ⟨child, member, inChild⟩ := mem_nodesList.mp below
        have range := laid.bounds child member
        have deeper := induction child member (encloses_of_placed (laid.placed child member)) node
          inChild
        omega

theorem Laid.pairwise_nodesList (laid : Laid source first tokens last)
    (each : ∀ token ∈ tokens, token.nodes.Pairwise fun earlier later =>
      later ∈ nodesList earlier.children ∨ earlier.stop ≤ later.start) :
    (nodesList tokens).Pairwise fun earlier later =>
      later ∈ nodesList earlier.children ∨ earlier.stop ≤ later.start := by
  induction tokens generalizing first with
  | nil => exact .nil
  | cons token rest induction =>
      obtain ⟨_, placed, others⟩ := laid
      rw [List.forall_mem_cons] at each
      rw [nodesList, List.pairwise_append]
      refine ⟨each.1, induction others each.2, ?_⟩
      intro earlier inToken later inRest
      obtain ⟨next, member, inNext⟩ := mem_nodesList.mp inRest
      have range := others.bounds next member
      have before := (encloses_of_placed placed).nodes_inside earlier inToken
      have after := (encloses_of_placed (others.placed next member)).nodes_inside later inNext
      right
      omega

/-- Of two nodes the later one is below the earlier one or after its end. -/
theorem Encloses.pairwise_nodes (encloses : token.Encloses source) :
    token.nodes.Pairwise fun earlier later =>
      later ∈ nodesList earlier.children ∨ earlier.stop ≤ later.start := by
  induction token using children_induction with
  | node token induction =>
      obtain ⟨first, last, laid, _, _⟩ := encloses
      rw [nodes_eq, List.pairwise_cons]
      constructor
      · intro later below
        exact .inl below
      · apply laid.pairwise_nodesList
        intro child member
        exact induction child member (encloses_of_placed (laid.placed child member))

theorem Encloses.everywhere (encloses : root.Encloses source) :
    root.Everywhere (Encloses source) := by
  rw [everywhere_iff]
  refine ⟨encloses, ?_⟩
  intro child member
  obtain ⟨first, last, laid, _⟩ := encloses
  exact (laid.placed child member).everywhere.imp fun _ => encloses_of_placed

/-- Of two nodes of a tree one is inside the other, or one ends before the other begins. -/
theorem Encloses.nested (encloses : root.Encloses source) (isNode : node ∈ root.nodes)
    (isParent : parent ∈ root.nodes) :
    node ∈ parent.nodes ∨ parent ∈ node.nodes ∨ node.stop ≤ parent.start ∨
      parent.stop ≤ node.start := by
  have every : ∀ ⦃node⦄, node ∈ root.nodes → ∀ ⦃parent⦄, parent ∈ root.nodes →
      node ∈ parent.nodes ∨ parent ∈ node.nodes ∨ node.stop ≤ parent.start ∨
        parent.stop ≤ node.start := by
    apply List.Pairwise.forall_of_forall_of_flip
    · intro other _
      exact .inl (by simp [nodes_eq])
    · apply encloses.pairwise_nodes.imp
      rintro earlier later (inside | apart)
      · exact .inr (.inl (mem_nodes_of_below inside))
      · exact .inr (.inr (.inl apart))
    · apply encloses.pairwise_nodes.imp
      rintro earlier later (inside | apart)
      · exact .inl (mem_nodes_of_below inside)
      · exact .inr (.inr (.inr apart))
  exact every isNode isParent

/-- Of the nodes inside one token, only the left one of two neighbours, if it has no children, ends
where the right one begins. -/
theorem Laid.eq_of_stop_eq {first last : Nat}
    (laid : Laid source first (before ++ left :: right :: after) last)
    (childless : left.children = []) (leftFilled : left.start < left.stop)
    (isNode : node ∈ nodesList (before ++ left :: right :: after)) (filled : node.start < node.stop)
    (stop : node.stop = right.start) : node = left := by
  obtain ⟨child, member, inChild⟩ := mem_nodesList.mp isNode
  have range := (encloses_of_placed (laid.placed child member)).nodes_inside node inChild
  obtain ⟨middle, laidBefore, leftStart, _, rightStart, placed, laidAfter⟩ := laid_append.mp laid
  have laidRight : Laid source right.start (right :: after) last := ⟨rfl, placed, laidAfter⟩
  rcases List.mem_append.mp member with earlier | later
  · have bounds := laidBefore.bounds child earlier
    omega
  · rcases List.mem_cons.mp later with rfl | later
    · rw [nodes_eq, childless] at inChild
      exact List.mem_singleton.mp inChild
    · have bounds := laidRight.bounds child later
      omega

theorem Encloses.eq_of_stop_eq (encloses : root.Encloses source)
    (filled : ∀ node ∈ nodesList root.children, node.start < node.stop)
    (isParent : parent ∈ root.nodes) (neighbours : parent.children = before ++ left :: right :: after)
    (childless : left.children = []) (isNode : node ∈ root.nodes)
    (stop : node.stop = right.start) : node = left := by
  obtain ⟨first, last, laid, start, stops⟩ := encloses.everywhere parent isParent
  have leftMember : left ∈ nodesList root.children :=
    mem_nodesList_of_child isParent (by simp [neighbours])
  have rightMember : right ∈ nodesList root.children :=
    mem_nodesList_of_child isParent (by simp [neighbours])
  have leftFilled := filled left leftMember
  have rightFilled := filled right rightMember
  have leftBounds := laid.bounds left (by simp [neighbours])
  have rightBounds := laid.bounds right (by simp [neighbours])
  have adjacent : left.stop = right.start := by
    rw [neighbours] at laid
    obtain ⟨_, _, _, _, rightStart, _⟩ := laid_append.mp laid
    exact rightStart.symm
  have nodeFilled : node.start < node.stop := by
    rcases mem_nodes.mp isNode with rfl | below
    · have whole := (encloses.nodes_inside left (mem_nodes_of_below leftMember)).1
      omega
    · exact filled node below
  rcases encloses.nested isNode isParent with inside | around | earlier | later
  · rcases mem_nodes.mp inside with rfl | below
    · omega
    · rw [neighbours] at laid below
      exact laid.eq_of_stop_eq childless leftFilled below nodeFilled stop
  · have range := (encloses.everywhere node isNode).nodes_inside parent around
    omega
  · omega
  · omega

end Token

end PassageMarkup
