import PassageMarkup.Rule.Basic

/-!
# Sightings of closers

A scan remembers where it saw each closer, so that it looks for a closer again only when it has gone
past the place where the closer was found.
-/

namespace PassageMarkup

namespace Text

/-- The offset of the first occurrence of `needle`. -/
def firstOccurrence (needle : Text) : Text → Option Nat
  | [] => none
  | c :: rest =>
    if needle.isPrefixOf (c :: rest) then some 0
    else (firstOccurrence needle rest).map (· + 1)

end Text

/-- What is known of a closer. -/
inductive Sighting where
  /-- It was not looked for yet. -/
  | unknown
  /-- It no longer occurs. -/
  | gone
  /-- It occurs at a place of the text. -/
  | seen (place : Nat)
deriving DecidableEq, Repr

/-- What is known of each closer. -/
def Sightings : Type :=
  Closer → Sighting

namespace Sightings

/-- Before anything was looked for. -/
def start : Sightings :=
  fun _ => .unknown

/-- Notes what is known of a closer from now on. -/
def note (known : Sightings) (closer : Closer) (sighting : Sighting) : Sightings :=
  fun other => if other = closer then sighting else known other

/-- Looks for a closer in the text that is ahead at a place. -/
def search (known : Sightings) (closer : Closer) (place : Nat) (ahead : Text) :
    Bool × Sightings :=
  match Text.firstOccurrence closer.text ahead with
  | none => (false, known.note closer .gone)
  | some offset => (true, known.note closer (.seen (place + offset)))

/-- Tells whether a closer is ahead at a place, and what is known of the closers after that. -/
def lookUp (known : Sightings) (closer : Closer) (place : Nat) (ahead : Text) :
    Bool × Sightings :=
  match known closer with
  | .gone => (false, known)
  | .seen found => if place ≤ found then (true, known) else known.search closer place ahead
  | .unknown => known.search closer place ahead

end Sightings

end PassageMarkup
