import PassageMarkup.Scan.Event
import PassageMarkup.Scan.Horizon
import PassageMarkup.Token.Basic

/-!
# States of a scan

A scan reads a text from left to right.  What it has read is a stack of open fronts, each with the
tokens on its left, and the tokens after the last front.  Text that no rule has taken yet is
pending.
-/

namespace PassageMarkup

namespace Scan

/-- An open front. -/
structure Frame where
  /-- The rule that made the front. -/
  rule : Rule
  arity : Nat
  front : Token
  /-- The tokens between the front before and this one, the newest first. -/
  before : List Token

/-- The tokens of a text and the events of reading it, the newest event first. -/
structure Outcome where
  tokens : List Token
  events : List Event

/-- What stays the same during a scan. -/
structure Setting where
  /-- The rules of each mode. -/
  rules : Mode → List Rule
  /-- Tells whether pairs become one token and inner texts are read. -/
  fold : Bool
  place : Text
  /-- The number of fronts that may be open. -/
  room : Nat
  /-- The mode outside all fronts. -/
  mode : Mode
  /-- Tells whether the text begins a line. -/
  beginsLine : Bool
  /-- The absolute offset of the text. -/
  offset : Nat
  horizon : Horizon
  /-- Reads an inner text in a mode from an absolute offset; `none` at the nesting limit. -/
  readInner : Option (Mode → Nat → Text → Outcome)

/-- How far a scan has come. -/
structure State where
  /-- The text still ahead. -/
  rest : Text
  /-- The number of characters read. -/
  position : Nat
  /-- The text that no rule has taken, the last character first. -/
  pending : Text
  /-- The tokens after the last open front, the newest first. -/
  siblings : List Token
  /-- The open fronts, the innermost first. -/
  frames : List Frame
  /-- What happened, the newest event first. -/
  events : List Event

/-- A back together with the front that it closes. -/
structure Pairing where
  /-- The fronts inside the pair, which are given up, the innermost first. -/
  abandoned : List Frame
  frame : Frame
  /-- The fronts outside the pair, the innermost first. -/
  outer : List Frame
  /-- The kind of the pair. -/
  kind : Kind

namespace Frame

/-- The event of giving up a front. -/
def demotion (frame : Frame) : Event :=
  .demoted frame.front.kind frame.front.start

/-- Gives up fronts: each becomes plain text between the tokens on both sides.  All lists have the
newest token first. -/
def unwind (siblings : List Token) : List Frame → List Token
  | [] => siblings
  | frame :: outer => unwind (siblings ++ frame.front.demote :: frame.before) outer

/-- The innermost front that a rule closes, unless the search has to stop before it. -/
def pairing? (rule : Rule) (arity : Nat) : List Frame → Option Pairing
  | [] => none
  | frame :: outer =>
    match rule.resolves frame.front.kind frame.rule.aka frame.arity arity with
    | some kind => some ⟨[], frame, outer, kind⟩
    | none =>
      if rule.stopsAt frame.front.kind frame.rule.aka then none
      else
        (pairing? rule arity outer).map fun pairing =>
          { pairing with abandoned := frame :: pairing.abandoned }

end Frame

namespace State

/-- The state before a text is read. -/
def initial (text : Text) : State where
  rest := text
  position := 0
  pending := []
  siblings := []
  frames := []
  events := []

/-- The mode at the place of a state: the innermost open front decides it. -/
def mode (setting : Setting) (state : State) : Mode :=
  (state.frames.head?.bind fun frame => frame.rule.innerMode).getD setting.mode

/-- What comes before the pending text. -/
def preceding (setting : Setting) (state : State) : Preceding :=
  match state.siblings, state.frames with
  | token :: _, _ => .token token.kind
  | [], frame :: _ => .token frame.front.kind
  | [], [] => if setting.beginsLine then .lineStart else .midLine

/-- Makes the pending text a token. -/
def flush (setting : Setting) (state : State) : State :=
  if state.pending.isEmpty then state
  else
    let start := setting.offset + (state.position - state.pending.length)
    { state with
      pending := []
      siblings := .leaf .text start state.pending.reverse setting.place :: state.siblings }

end State

end Scan

end PassageMarkup
