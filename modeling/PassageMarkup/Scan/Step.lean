import PassageMarkup.Scan.State

/-!
# Steps of a scan

At each place the rules of the mode are tried in order.  The first one that applies makes a token;
when none applies, one character stays text.
-/

namespace PassageMarkup

namespace Scan

/-- What trying a rule leads to. -/
inductive Verdict where
  /-- The rule does not apply. -/
  | skip
  /-- The rule would open a front, which the nesting limit forbids. -/
  | refuse
  | accept (lexeme : Lexeme) (pairing : Option Pairing)

/-- The rule that applies at a place. -/
structure Choice where
  rule : Rule
  lexeme : Lexeme
  pairing : Option Pairing

namespace State

/-- Tells whether a rule can be tried, as far as that does not depend on the text ahead. -/
def admits (setting : Setting) (state : State) (rule : Rule) : Bool :=
  (!rule.beginsLine || (state.preceding setting).beginsLine) &&
    (!rule.cannotFollowText || state.pending.isEmpty) &&
    rule.closer.all fun closer => setting.horizon.isAhead closer state.position

/-- Decides about a lexeme that a rule has taken.  A back needs a front to close, and a token that
cannot close one opens one if it may. -/
def judgeLexeme (setting : Setting) (state : State) (rule : Rule) (lexeme : Lexeme) : Verdict :=
  match Frame.pairing? rule lexeme.arity state.frames with
  | some pairing => .accept lexeme (some pairing)
  | none =>
    if rule.front then
      if setting.room ≤ state.frames.length then .refuse else .accept lexeme none
    else if rule.closes.isEmpty then .accept lexeme none
    else .skip

/-- Tries a rule. -/
def judge (setting : Setting) (state : State) (rule : Rule) : Verdict :=
  if state.admits setting rule then
    match rule.pattern.find? state.rest with
    | none => .skip
    | some found =>
      let lexeme := rule.lexeme found
      if lexeme.length = 0 || state.rest.length < lexeme.length then .skip
      else state.judgeLexeme setting rule lexeme
  else .skip

/-- Tries rules in order, and collects the kinds of those that the nesting limit refuses. -/
def choose (setting : Setting) (state : State) : List Rule → List Kind × Option Choice
  | [] => ([], none)
  | rule :: rules =>
    match state.judge setting rule with
    | .skip => choose setting state rules
    | .refuse =>
      let (refused, choice) := choose setting state rules
      (rule.kind :: refused, choice)
    | .accept lexeme pairing => ([], some ⟨rule, lexeme, pairing⟩)

end State

/-- The children of a token and the events of reading them. -/
def readInner (setting : Setting) (rule : Rule) (start : Nat) (inner : Text) : Outcome :=
  match setting.readInner with
  | some read => read (rule.innerMode.getD .prose) start inner
  | none => ⟨[.leaf .text start inner setting.place], [.unread start]⟩

/-- The token of a lexeme with the given text, and the events of reading its inner text. -/
def makeToken (setting : Setting) (rule : Rule) (lexeme : Lexeme) (start : Nat) (text : Text) :
    Token × List Event :=
  let token : Token :=
    { Token.leaf rule.kind start text setting.place with
      fields := lexeme.fields
      fault := lexeme.fault }
  match lexeme.inner with
  | none => (token, [])
  | some span =>
    if setting.fold then
      let inner := text.slice span
      let outcome := readInner setting rule (start + span.start) inner
      ({ token with inner := inner, children := outcome.tokens }, outcome.events)
    else (token, [])

/-- The token of a pair, from its front, its children and its back. -/
def foldPair (kind : Kind) (front : Token) (children : List Token) (back : Token) : Token :=
  let inner := Token.textOf children
  { back with
    kind := kind
    start := front.start
    text := front.text ++ inner ++ back.text
    inner := inner
    children := children
    fields := back.fields.mergeMissing front.fields }

namespace State

/-- Closes a pair with its back.  Folded, the pair and all between become one token; otherwise
they stay beside each other.  In both cases the fronts inside the pair are given up. -/
def close (setting : Setting) (state : State) (back : Token) (pairing : Pairing) : State :=
  let front := pairing.frame.front
  let between := Frame.unwind state.siblings pairing.abandoned
  { state with
    siblings :=
      if setting.fold then
        foldPair pairing.kind front (Token.coalesce between.reverse) back :: pairing.frame.before
      else back :: between ++ front :: pairing.frame.before
    frames := pairing.outer
    events :=
      .closed front.kind front.start back.kind back.start pairing.kind ::
        pairing.abandoned.map Frame.demotion ++ state.events }

/-- Adds a token: it closes a pair, opens a front, or stands by itself. -/
def add (setting : Setting) (state : State) (choice : Choice) (token : Token) : State :=
  match choice.pairing with
  | some pairing => state.close setting token pairing
  | none =>
    if choice.rule.front then
      { state with
        siblings := []
        frames := ⟨choice.rule, choice.lexeme.arity, token, state.siblings⟩ :: state.frames
        events := .opened token.kind token.start :: state.events }
    else { state with siblings := token :: state.siblings }

/-- Makes the token of a rule that applies, and goes past it. -/
def accept (setting : Setting) (state : State) (choice : Choice) : State :=
  let flushed := state.flush setting
  let length := choice.lexeme.length
  let (token, events) :=
    makeToken setting choice.rule choice.lexeme (setting.offset + state.position)
      (state.rest.take length)
  add setting
    { flushed with
      rest := state.rest.drop length
      position := state.position + length
      events := events ++ flushed.events }
    choice token

/-- Goes past one character, which stays text. -/
def skipChar (state : State) : State :=
  match state.rest with
  | [] => state
  | c :: rest => { state with rest, position := state.position + 1, pending := c :: state.pending }

/-- Makes one step. -/
def step (setting : Setting) (state : State) : State :=
  let (refused, choice) := state.choose setting (setting.rules (state.mode setting))
  let refusals := refused.map fun kind => Event.refused kind (setting.offset + state.position)
  let noted := { state with events := refusals.reverse ++ state.events }
  match choice with
  | some choice => noted.accept setting choice
  | none => noted.skipChar

/-- Makes steps until the text is read, and at most `bound` of them.  Each step reads a character
or more, so the length of the text is bound enough. -/
def run (setting : Setting) : Nat → State → State
  | 0, state => state
  | bound + 1, state =>
    if state.rest.isEmpty then state else run setting bound (state.step setting)

/-- Ends a scan: what is pending becomes a token, and the fronts still open are given up. -/
def finish (setting : Setting) (state : State) : Outcome :=
  let flushed := state.flush setting
  { tokens := Token.coalesce (Frame.unwind flushed.siblings flushed.frames).reverse
    events := flushed.frames.map Frame.demotion ++ flushed.events }

end State

/-- Reads a text from its start to its end. -/
def scanText (setting : Setting) (text : Text) : Outcome :=
  ((State.initial text).run setting text.length).finish setting

end Scan

end PassageMarkup
