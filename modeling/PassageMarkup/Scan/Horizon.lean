import PassageMarkup.Rule.Basic

/-!
# Horizons

The horizon of a text says where each closer occurs for the last time, so that one comparison
tells whether the closer is still ahead.
-/

namespace PassageMarkup

namespace Text

/-- The offset of the last occurrence of `needle`. -/
def lastOccurrence (needle : Text) : Text → Option Nat
  | [] => none
  | c :: rest =>
    match lastOccurrence needle rest with
    | some offset => some (offset + 1)
    | none => if needle.isPrefixOf (c :: rest) then some 0 else none

end Text

/-- The last occurrence of each closer. -/
structure Horizon where
  commentEnd : Option Nat
  tagEnd : Option Nat
  callEnd : Option Nat
  linkEnd : Option Nat
deriving DecidableEq, Repr

namespace Horizon

/-- The horizon of a text. -/
def ofText (text : Text) : Horizon where
  commentEnd := Text.lastOccurrence Closer.commentEnd.text text
  tagEnd := Text.lastOccurrence Closer.tagEnd.text text
  callEnd := Text.lastOccurrence Closer.callEnd.text text
  linkEnd := Text.lastOccurrence Closer.linkEnd.text text

/-- The last occurrence of a closer. -/
def last (horizon : Horizon) : Closer → Option Nat
  | .commentEnd => horizon.commentEnd
  | .tagEnd => horizon.tagEnd
  | .callEnd => horizon.callEnd
  | .linkEnd => horizon.linkEnd

/-- Tells whether a closer occurs at `position` or later. -/
def isAhead (horizon : Horizon) (closer : Closer) (position : Nat) : Bool :=
  (horizon.last closer).any fun offset => position ≤ offset

end Horizon

end PassageMarkup
