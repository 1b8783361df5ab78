import PassageMarkup.Text.Basic

/-!
# Slices by bytes

A slice of a text can be given by two offsets in bytes.  There is one only when the offsets are in
order, lie in the text and do not cut a character.
-/

namespace PassageMarkup

namespace Text

/-- The text from an offset in bytes on. -/
def dropBytes? : Nat → Text → Option Text
  | 0, text => some text
  | _ + 1, [] => none
  | n + 1, c :: rest =>
    if c.utf8Size ≤ n + 1 then dropBytes? (n + 1 - c.utf8Size) rest else none

/-- The text up to an offset in bytes. -/
def takeBytes? : Nat → Text → Option Text
  | 0, _ => some []
  | _ + 1, [] => none
  | n + 1, c :: rest =>
    if c.utf8Size ≤ n + 1 then (takeBytes? (n + 1 - c.utf8Size) rest).map (c :: ·) else none

/-- The text between two offsets in bytes. -/
def sliceBytes? (text : Text) (start stop : Nat) : Option Text :=
  if start ≤ stop then (text.dropBytes? start).bind (takeBytes? (stop - start)) else none

@[simp] theorem byteLength_append (left right : Text) :
    byteLength (left ++ right) = byteLength left + byteLength right := by
  induction left with
  | nil => simp [byteLength]
  | cons c rest induction => simp [byteLength, induction, Nat.add_assoc]

theorem byteLength_pos {text : Text} (nonempty : text ≠ []) : 0 < byteLength text := by
  cases text with
  | nil => contradiction
  | cons c rest => exact Nat.add_pos_left c.utf8Size_pos _

theorem dropBytes?_append (before after : Text) :
    dropBytes? before.byteLength (before ++ after) = some after := by
  induction before with
  | nil => simp [byteLength, dropBytes?]
  | cons c rest induction =>
      obtain ⟨n, size⟩ := Nat.exists_eq_add_one_of_ne_zero
        (Nat.ne_of_gt (byteLength_pos (List.cons_ne_nil c rest)))
      have total : byteLength (c :: rest) = c.utf8Size + byteLength rest := rfl
      have fits : c.utf8Size ≤ n + 1 := by omega
      have remaining : n + 1 - c.utf8Size = byteLength rest := by omega
      rw [size, List.cons_append, dropBytes?, if_pos fits, remaining, induction]

theorem takeBytes?_append (part after : Text) :
    takeBytes? part.byteLength (part ++ after) = some part := by
  induction part with
  | nil => simp [byteLength, takeBytes?]
  | cons c rest induction =>
      obtain ⟨n, size⟩ := Nat.exists_eq_add_one_of_ne_zero
        (Nat.ne_of_gt (byteLength_pos (List.cons_ne_nil c rest)))
      have total : byteLength (c :: rest) = c.utf8Size + byteLength rest := rfl
      have fits : c.utf8Size ≤ n + 1 := by omega
      have remaining : n + 1 - c.utf8Size = byteLength rest := by omega
      rw [size, List.cons_append, takeBytes?, if_pos fits, remaining, induction]
      rfl

theorem sliceBytes?_append (before part after : Text) :
    sliceBytes? (before ++ part ++ after) before.byteLength (before ++ part).byteLength =
      some part := by
  have length : (before ++ part).byteLength - before.byteLength = part.byteLength := by
    rw [byteLength_append, Nat.add_sub_cancel_left]
  rw [sliceBytes?, if_pos (by simp), List.append_assoc, dropBytes?_append, Option.bind_some, length,
    takeBytes?_append]

theorem sliceBytes?_take {text : Text} {start stop : Nat} (ordered : start ≤ stop) :
    text.sliceBytes? (byteLength (text.take start)) (byteLength (text.take stop)) =
      some (text.slice ⟨start, stop⟩) := by
  have upTo : text.take stop = text.take start ++ text.slice ⟨start, stop⟩ := by
    have split := List.take_add (l := text) (i := start) (j := stop - start)
    rw [Nat.add_sub_cancel' ordered] at split
    exact split
  have whole : text = text.take start ++ text.slice ⟨start, stop⟩ ++ text.drop stop := by
    rw [← upTo, List.take_append_drop]
  rw [upTo]
  exact (congrArg (sliceBytes? · _ _) whole).trans (sliceBytes?_append _ _ _)

end Text

end PassageMarkup
