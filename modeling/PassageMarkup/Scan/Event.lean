import PassageMarkup.Kind
import PassageMarkup.Text.Basic

/-!
# Events of a scan

What happens to fronts during a scan, and where the nesting limit stops something.  Each event
carries absolute offsets.
-/

namespace PassageMarkup

/-- One event of a scan. -/
inductive Event where
  /-- A front was opened. -/
  | opened (kind : Kind) (start : Nat)
  /-- A front was not opened because of the nesting limit. -/
  | refused (kind : Kind) (offset : Nat)
  /-- An inner text was kept as plain text because of the nesting limit. -/
  | unread (offset : Nat)
  /-- An open front became plain text. -/
  | demoted (kind : Kind) (start : Nat)
  /-- A back closed a front, and both together are a pair. -/
  | closed (front : Kind) (frontStart : Nat) (back : Kind) (backStart : Nat) (pair : Kind)
deriving DecidableEq, Repr

/-- How serious a record is. -/
inductive Level where
  | debug
  | trace
  | warn
deriving DecidableEq, Repr

/-- A line of a log. -/
structure Record where
  level : Level
  message : Text
deriving DecidableEq, Repr

namespace Level

/-- The name of a level. -/
def name : Level → String
  | debug => "DEBUG"
  | trace => "TRACE"
  | warn => "WARN"

end Level

namespace Record

/-- A record with its level in front. -/
def line (entry : Record) : Text :=
  entry.level.name.toList ++ ' ' :: entry.message

end Record

namespace Event

/-- Tells whether the nesting limit caused an event. -/
def isLimit : Event → Bool
  | refused _ _ => true
  | unread _ => true
  | _ => false

/-- How a kind and a place are named in a message. -/
def kindAt (kind : Kind) (offset : Nat) : Text :=
  kind.name.toList ++ " at ".toList ++ Text.decimal offset

/-- How the limit is named in a message. -/
def limitReached (limit : Nat) : Text :=
  ": nesting limit ".toList ++ Text.decimal limit ++ " reached".toList

/-- The record of an event.  Opening a front leaves none, and closing one leaves one only when the
pair is folded. -/
def record? (fold : Bool) (limit : Nat) : Event → Option Record
  | opened _ _ => none
  | refused kind offset =>
    some ⟨.warn, "not opening ".toList ++ kindAt kind offset ++ limitReached limit⟩
  | unread offset =>
    some ⟨.warn,
      "not lexing inner text at ".toList ++ Text.decimal offset ++ limitReached limit⟩
  | demoted kind start => some ⟨.trace, "demoting unmatched ".toList ++ kindAt kind start⟩
  | closed front frontStart back backStart pair =>
    if fold then
      some ⟨.trace,
        "folding ".toList ++ kindAt front frontStart ++ " with ".toList ++
          kindAt back backStart ++ " into ".toList ++ pair.name.toList⟩
    else none

end Event

end PassageMarkup
