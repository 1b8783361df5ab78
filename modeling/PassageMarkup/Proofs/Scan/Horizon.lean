import Mathlib.Data.List.Infix
import PassageMarkup.Scan.Horizon

/-!
# What a horizon tells

The last occurrence of a text tells at which places the text is still ahead, so the horizon of a
text answers for every place whether a closer occurs there or later.
-/

namespace PassageMarkup

namespace Text

theorem lastOccurrence_any_iff {needle text : Text} (nonempty : needle ≠ []) {position : Nat} :
    (lastOccurrence needle text).any (fun offset => position ≤ offset) = true ↔
      needle <:+: text.drop position := by
  induction text generalizing position with
  | nil => simp [lastOccurrence, nonempty]
  | cons c rest induction =>
      rw [lastOccurrence]
      cases later : lastOccurrence needle rest with
      | some offset =>
          rw [later] at induction
          cases position with
          | zero =>
              have inRest : needle <:+: rest := by
                simpa using (@induction 0).mp (by simp)
              simpa using List.infix_cons inRest
          | succ position => simpa using @induction position
      | none =>
          rw [later] at induction
          have notInRest : ¬needle <:+: rest := by
            simpa using (@induction 0).not.mp (by simp)
          by_cases here : needle <+: c :: rest
          · rw [if_pos (List.isPrefixOf_iff_prefix.mpr here)]
            cases position with
            | zero => simpa using here.isInfix
            | succ position => simpa using @induction position
          · rw [if_neg (by simpa using here)]
            cases position with
            | zero => simp [List.infix_cons_iff, here, notInRest]
            | succ position => simpa using @induction position

end Text

theorem Closer.text_ne_nil (closer : Closer) : closer.text ≠ [] := by
  cases closer <;> simp [Closer.text]

/-- A horizon tells exactly whether a closer occurs in the rest of its text. -/
theorem Horizon.isAhead_iff {text : Text} {closer : Closer} {position : Nat} :
    (Horizon.ofText text).isAhead closer position = true ↔ closer.text <:+: text.drop position := by
  rw [← Text.lastOccurrence_any_iff closer.text_ne_nil]
  cases closer <;> rfl

end PassageMarkup
