import PassageMarkup.Proofs.Kind
import PassageMarkup.Proofs.Token.Nodes

/-!
# How deep tokens stand

A token stands below a root with other tokens around it.  Of these, the ones whose inner text is
read by a scan of its own part the tokens around a place into levels, and a scan counts only the
pairs of its own level.
-/

namespace PassageMarkup

namespace Token

/-- A token below a root, after the tokens between the two, the innermost first. -/
inductive Below (root : Token) : List Token → Token → Prop where
  | child {token : Token} : token ∈ root.children → Below root [] token
  | deeper {around : List Token} {token child : Token} :
      Below root around token → child ∈ token.children → Below root (token :: around) child

/-- The number of scans of inner texts in which a place stands, given the tokens around it. -/
def innerTexts (around : List Token) : Nat :=
  around.countP (·.kind.hasInnerText)

/-- The number of tokens around a place inside the innermost inner text in which it stands. -/
def sinceInnerText (around : List Token) : Nat :=
  (around.takeWhile fun token => !token.kind.hasInnerText).length

/-- A token inside `inside` pairs of its level fits into `room`: its pairs and those around it on
the same level are at most `room`, and every level below has room for one less. -/
inductive Fits : Nat → Nat → Token → Prop where
  | leaf {room inside : Nat} {token : Token} :
      token.kind.isPair = false → token.children = [] → Fits room inside token
  | inner {room inside : Nat} {token : Token} :
      token.kind.isPair = false →
      token.kind.hasInnerText = true →
      (∀ child ∈ token.children, Fits (room - 1) 0 child) →
      Fits room inside token
  | pair {room inside : Nat} {token : Token} :
      token.kind.isPair = true →
      inside < room →
      (∀ child ∈ token.children, Fits room (inside + 1) child) →
      Fits room inside token

namespace Fits

variable {room inside fewer : Nat} {token : Token}

theorem mono (fits : Fits room inside token) (less : fewer ≤ inside) : Fits room fewer token := by
  induction fits generalizing fewer with
  | leaf notPair childless => exact .leaf notPair childless
  | inner notPair hasInner children => exact .inner notPair hasInner children
  | pair isPair bounded children induction =>
      refine .pair isPair (Nat.lt_of_le_of_lt less bounded) ?_
      intro child member
      exact induction child member (Nat.succ_le_succ less)

theorem demote (token : Token) : Fits room inside token.demote :=
  .leaf rfl rfl

theorem joined (next : Token) (plain : token.isPlainText = true) :
    Fits room inside { token with text := token.text ++ next.text, stop := next.stop } := by
  obtain ⟨kind, childless⟩ := isPlainText_iff.mp plain
  refine .leaf ?_ childless
  simp only [kind]
  rfl

theorem coalesce {tokens : List Token} (fits : ∀ token ∈ tokens, Fits room inside token) :
    ∀ token ∈ Token.coalesce tokens, Fits room inside token :=
  forall_mem_coalesce (fun _ next plain _ _ _ => joined next plain) fits

end Fits

/-- Below a root whose children fit, a token fits into the room that the levels around it leave. -/
theorem Below.fits {root token : Token} {around : List Token} {room : Nat}
    (fit : ∀ child ∈ root.children, Fits room 0 child) (below : Below root around token) :
    Fits (room - innerTexts around) (sinceInnerText around) token := by
  induction below with
  | child member => exact fit _ member
  | @deeper around token child _ member induction =>
      cases induction with
      | leaf notPair childless =>
          rw [childless] at member
          contradiction
      | inner notPair hasInner children =>
          have level : sinceInnerText (token :: around) = 0 := by
            simp [sinceInnerText, hasInner]
          have deeper : innerTexts (token :: around) = innerTexts around + 1 :=
            List.countP_cons_of_pos hasInner
          rw [level, deeper, ← Nat.sub_sub]
          exact children child member
      | pair isPair bounded children =>
          have noInner := Kind.not_hasInnerText_of_isPair isPair
          have level : sinceInnerText (token :: around) = sinceInnerText around + 1 := by
            simp [sinceInnerText, noInner]
          have same : innerTexts (token :: around) = innerTexts around :=
            List.countP_cons_of_neg (by simp [noInner])
          rw [level, same]
          exact children child member

/-- A pair that fits stands inside fewer inner texts and pairs of its level than there is room. -/
theorem Fits.pair_lt {levels : Nat} {token : Token} {inside room : Nat}
    (fits : Fits (room - levels) inside token) (isPair : token.kind.isPair = true) :
    levels + inside < room := by
  cases fits with
  | leaf notPair => simp [isPair] at notPair
  | inner notPair => simp [isPair] at notPair
  | pair _ bounded => omega

variable {root token : Token} {around : List Token} {property : Token → Prop}

theorem Below.exists_below (below : Below root around token) :
    ∀ outer ∈ around, ∃ farther, Below root farther outer := by
  induction below with
  | child => simp
  | deeper outside _ induction =>
      rw [List.forall_mem_cons]
      exact ⟨⟨_, outside⟩, induction⟩

theorem Below.exists_inside {node : Token} (below : Below root around token)
    (member : node ∈ nodesList token.children) :
    ∃ inside, Below root (inside ++ token :: around) node := by
  induction token using children_induction generalizing around with
  | node token induction =>
      obtain ⟨child, isChild, inChild⟩ := mem_nodesList.mp member
      have outside := below.deeper isChild
      rcases mem_nodes.mp inChild with rfl | deeper
      · exact ⟨[], outside⟩
      · obtain ⟨inside, further⟩ := induction child isChild outside deeper
        refine ⟨inside ++ [child], ?_⟩
        rw [List.append_assoc]
        exact further

theorem Below.everywhere (every : ∀ child ∈ root.children, child.Everywhere property)
    (below : Below root around token) : token.Everywhere property := by
  induction below with
  | child member => exact every _ member
  | deeper _ member induction => exact induction.child member

/-- A property holds of one token around a place at most, when it holds of no token around a token
of which it holds. -/
theorem Below.countP_le_one {test : Token → Bool}
    (apart : ∀ around token, Below root around token → test token = true →
      ∀ outer ∈ around, test outer = false)
    (below : Below root around token) : around.countP test ≤ 1 := by
  induction below with
  | child => simp
  | @deeper around token child outside _ induction =>
      by_cases holds : test token = true
      · have none : around.countP test = 0 := by
          rw [List.countP_eq_zero]
          intro outer member
          simp [apart _ _ outside holds outer member]
        have one : (token :: around).countP test = 1 := by
          rw [List.countP_cons_of_pos holds, none]
        exact Nat.le_of_eq one
      · rw [List.countP_cons_of_neg holds]
        exact induction

end Token

end PassageMarkup
