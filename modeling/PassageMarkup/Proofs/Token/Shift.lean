import PassageMarkup.Proofs.Token.Nodes

/-!
# Shifted trees

A tree is shifted when a distance is added to all offsets in it.  Nothing else of its tokens
depends on where they stand, so giving up a front, joining texts and listing the nodes of a tree all
commute with shifting.
-/

namespace PassageMarkup

namespace Token

mutual

/-- The same tree with a distance added to every start and every stop. -/
def shift (distance : Nat) : Token → Token
  | ⟨kind, start, stop, text, inner, children, place, fields, fault⟩ =>
    ⟨kind, distance + start, distance + stop, text, inner, shiftList distance children, place,
      fields, fault⟩

def shiftList (distance : Nat) : List Token → List Token
  | [] => []
  | token :: rest => token.shift distance :: shiftList distance rest

end

variable {distance : Nat}

theorem shiftList_eq_map (tokens : List Token) :
    shiftList distance tokens = tokens.map (shift distance) := by
  induction tokens with
  | nil => rfl
  | cons token rest induction => rw [shiftList, induction, List.map_cons]

theorem shift_eq (token : Token) :
    token.shift distance =
      { token with
        start := distance + token.start
        stop := distance + token.stop
        children := token.children.map (shift distance) } := by
  cases token
  rw [shift, shiftList_eq_map]

@[simp] theorem shift_kind (token : Token) : (token.shift distance).kind = token.kind := by
  rw [shift_eq]

@[simp] theorem shift_start (token : Token) :
    (token.shift distance).start = distance + token.start := by
  rw [shift_eq]

@[simp] theorem shift_text (token : Token) : (token.shift distance).text = token.text := by
  rw [shift_eq]

@[simp] theorem shift_isPlainText (token : Token) :
    (token.shift distance).isPlainText = token.isPlainText := by
  simp [isPlainText, shift_eq]

@[simp] theorem shift_leaf (kind : Kind) (start : Nat) (text place : Text) :
    (leaf kind start text place).shift distance = leaf kind (distance + start) text place := by
  simp [shift_eq, leaf, Nat.add_assoc]

@[simp] theorem shift_demote (token : Token) :
    token.demote.shift distance = (token.shift distance).demote := by
  simp [shift_eq, demote]

@[simp] theorem textOf_map_shift (tokens : List Token) :
    textOf (tokens.map (shift distance)) = textOf tokens := by
  simp [textOf, List.flatMap_map]

end Token

end PassageMarkup
