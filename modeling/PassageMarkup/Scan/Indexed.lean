import PassageMarkup.Scan.Sightings
import PassageMarkup.Scan.Step

/-!
# Scans by indices

The scan once more, on one list of nodes: open fronts are found by their indices in it, and closers
by where they were seen.  Reading an index that is out of range gives `none`, so a scan by indices
that comes to its end never did so.
-/

namespace PassageMarkup

namespace Scan

/-- A token of a scan. -/
structure Node where
  token : Token
  /-- The rule that made the token.  Texts, pairs and fronts that are given up have none. -/
  rule : Option Rule := none
  arity : Nat := 0

/-- The front that a back closes. -/
structure Partner where
  /-- The number of open fronts around it. -/
  place : Nat
  /-- The kind of the pair. -/
  kind : Kind
deriving DecidableEq, Repr

/-- What trying a rule leads to. -/
inductive Trial where
  | skip
  | refuse
  | accept (lexeme : Lexeme) (partner : Option Partner)

/-- The rule that applies at a place. -/
structure Taking where
  rule : Rule
  lexeme : Lexeme
  partner : Option Partner

/-- How far a scan by indices has come. -/
structure Indexed where
  /-- The text still ahead. -/
  rest : Text
  /-- The number of characters read. -/
  position : Nat
  /-- The text that no rule has taken, the last character first. -/
  pending : Text
  /-- The tokens, the oldest first. -/
  nodes : List Node
  /-- The indices of the open fronts, the outermost first. -/
  stack : List Nat
  /-- What is known of the closers. -/
  known : Sightings
  /-- What happened, the newest event first. -/
  events : List Event

/-- How folding a pair ends. -/
inductive Folding where
  | folded (indexed : Indexed)
  /-- The back or the front is missing, and folding ends early. -/
  | missing (indexed : Indexed)

namespace Node

/-- Gives up a front. -/
def demote (node : Node) : Node :=
  { node with token := node.token.demote, rule := none }

/-- The event of giving up a front. -/
def demotion (node : Node) : Event :=
  .demoted node.token.kind node.token.start

/-- The token of a node inside a pair, given with its index.  It is given up if it is an open front
still. -/
def inPair (abandoned : List Nat) (node : Node × Nat) : Token :=
  if abandoned.contains node.2 then node.1.demote.token else node.1.token

/-- The event of giving up a node inside a pair, if that happens. -/
def demotion? (abandoned : List Nat) (node : Node × Nat) : Option Event :=
  if abandoned.contains node.2 then some node.1.demotion else none

/-- The innermost front that a rule closes, unless the search has to stop before it.  The indices of
the open fronts are given with the innermost first. -/
def partner? (nodes : List Node) (rule : Rule) (arity : Nat) :
    List Nat → Option (Option Partner)
  | [] => some none
  | index :: outer =>
    match nodes[index]? with
    | none => none
    | some node =>
      let aka := node.rule.bind Rule.aka
      match rule.resolves node.token.kind aka node.arity arity with
      | some kind => some (some ⟨outer.length, kind⟩)
      | none =>
        if rule.stopsAt node.token.kind aka then some none else partner? nodes rule arity outer

end Node

namespace Folding

/-- The state after folding, however it ended. -/
def indexed : Folding → Indexed
  | folded indexed => indexed
  | missing indexed => indexed

end Folding

namespace Indexed

/-- The state before a text is read. -/
def initial (text : Text) : Indexed where
  rest := text
  position := 0
  pending := []
  nodes := []
  stack := []
  known := .start
  events := []

/-- The mode at the place of a state: the innermost open front decides it. -/
def mode? (setting : Setting) (indexed : Indexed) : Option Mode :=
  match indexed.stack.getLast? with
  | none => some setting.mode
  | some index =>
    indexed.nodes[index]?.map fun node => (node.rule.bind Rule.innerMode).getD setting.mode

/-- What comes before the pending text. -/
def preceding (setting : Setting) (indexed : Indexed) : Preceding :=
  match indexed.nodes.getLast? with
  | some node => .token node.token.kind
  | none => if setting.beginsLine then .lineStart else .midLine

/-- Makes the pending text a token. -/
def flush (setting : Setting) (indexed : Indexed) : Indexed :=
  if indexed.pending.isEmpty then indexed
  else
    let start := setting.offset + (indexed.position - indexed.pending.length)
    let token := Token.leaf .text start indexed.pending.reverse setting.place
    { indexed with pending := [], nodes := indexed.nodes ++ [{ token }] }

/-- Tells whether a rule can be tried after what comes before. -/
def fits (setting : Setting) (indexed : Indexed) (rule : Rule) : Bool :=
  (!rule.beginsLine || (indexed.preceding setting).beginsLine) &&
    (!rule.cannotFollowText || indexed.pending.isEmpty)

/-- Looks for the closer of a rule, if it has one. -/
def lookAhead (indexed : Indexed) (rule : Rule) : Bool × Sightings :=
  match rule.closer with
  | none => (true, indexed.known)
  | some closer => indexed.known.lookUp closer indexed.position indexed.rest

/-- The front that the lexeme of a rule closes, if any. -/
def partner? (indexed : Indexed) (rule : Rule) (lexeme : Lexeme) : Option (Option Partner) :=
  if rule.closes.isEmpty then some none
  else Node.partner? indexed.nodes rule lexeme.arity indexed.stack.reverse

/-- Decides about a lexeme that a rule has taken. -/
def judgeLexeme (setting : Setting) (indexed : Indexed) (rule : Rule) (lexeme : Lexeme) :
    Option Partner → Trial
  | some partner => .accept lexeme (some partner)
  | none =>
    if !rule.closes.isEmpty && !rule.front then .skip
    else if rule.front && setting.room ≤ indexed.stack.length then .refuse
    else .accept lexeme none

/-- Tries a rule.  What is found out about its closer stays known. -/
def attempt? (setting : Setting) (indexed : Indexed) (rule : Rule) : Option (Trial × Sightings) :=
  if indexed.fits setting rule then
    let (ahead, known) := indexed.lookAhead rule
    if ahead then
      match rule.pattern.find? indexed.rest with
      | none => some (.skip, known)
      | some found =>
        let lexeme := rule.lexeme found
        if lexeme.length = 0 || indexed.rest.length < lexeme.length then some (.skip, known)
        else
          (indexed.partner? rule lexeme).map fun partner =>
            (indexed.judgeLexeme setting rule lexeme partner, known)
    else some (.skip, known)
  else some (.skip, indexed.known)

/-- Tries rules in order, and collects the kinds of those that the nesting limit refuses. -/
def choose? (setting : Setting) (indexed : Indexed) :
    List Rule → Option (List Kind × Option Taking × Sightings)
  | [] => some ([], none, indexed.known)
  | rule :: rules =>
    match indexed.attempt? setting rule with
    | none => none
    | some (.skip, known) => choose? setting { indexed with known } rules
    | some (.refuse, known) =>
      (choose? setting { indexed with known } rules).map fun (refused, taking) =>
        (rule.kind :: refused, taking)
    | some (.accept lexeme partner, known) => some ([], some ⟨rule, lexeme, partner⟩, known)

/-- Gives up the front with an index. -/
def demote? (indexed : Indexed) (index : Nat) : Option Indexed :=
  indexed.nodes[index]?.map fun node =>
    { indexed with
      nodes := indexed.nodes.set index node.demote
      events := node.demotion :: indexed.events }

/-- Makes a pair with the newest node out of its front and all between.  The fronts inside the pair
are given up. -/
def fold? (indexed : Indexed) (partner : Partner) : Option Folding :=
  match indexed.stack[partner.place]? with
  | none => none
  | some index =>
    let abandoned := indexed.stack.drop (partner.place + 1)
    let closed := { indexed with stack := indexed.stack.take partner.place }
    match indexed.nodes.getLast? with
    | none => some (.missing closed)
    | some back =>
      let older := indexed.nodes.dropLast
      if older.length < index + 1 then none
      else
        let between := (older.drop (index + 1)).zipIdx (index + 1)
        let kept := older.take (index + 1)
        match kept.getLast? with
        | none => some (.missing { closed with nodes := kept })
        | some front =>
          let children := Token.coalesce (between.map (Node.inPair abandoned))
          let pair := foldPair partner.kind front.token children back.token
          let demotions := between.filterMap (Node.demotion? abandoned)
          some <| .folded
            { closed with
              nodes := kept.dropLast ++ [{ token := pair }]
              events :=
                .closed front.token.kind front.token.start back.token.kind back.token.start
                    partner.kind ::
                  demotions.reverse ++ indexed.events }

/-- Leaves a pair with the newest node beside each other.  The fronts inside the pair are given
up. -/
def closeFlat? (indexed : Indexed) (partner : Partner) : Option Indexed := do
  let index ← indexed.stack[partner.place]?
  let front ← indexed.nodes[index]?
  let back ← indexed.nodes.getLast?
  let closed ←
    (indexed.stack.drop (partner.place + 1)).foldlM demote?
      { indexed with stack := indexed.stack.take partner.place }
  return { closed with
    events :=
      .closed front.token.kind front.token.start back.token.kind back.token.start partner.kind ::
        closed.events }

/-- The token that is taken and the events of reading its inner text. -/
def made (setting : Setting) (indexed : Indexed) (taking : Taking) : Token × List Event :=
  makeToken setting taking.rule taking.lexeme (setting.offset + indexed.position)
    (indexed.rest.take taking.lexeme.length)

/-- Adds the token that is taken as the newest node, and goes past it. -/
def push (setting : Setting) (indexed : Indexed) (taking : Taking) : Indexed :=
  let flushed := indexed.flush setting
  let (token, events) := indexed.made setting taking
  { flushed with
    rest := indexed.rest.drop taking.lexeme.length
    position := indexed.position + taking.lexeme.length
    nodes := flushed.nodes ++ [⟨token, some taking.rule, taking.lexeme.arity⟩]
    events := events ++ flushed.events }

/-- Makes the token of a rule that applies.  It closes a pair, opens a front, or stands by itself. -/
def accept? (setting : Setting) (indexed : Indexed) (taking : Taking) : Option Indexed :=
  let pushed := indexed.push setting taking
  match taking.partner with
  | some partner =>
    if setting.fold then (pushed.fold? partner).map Folding.indexed
    else pushed.closeFlat? partner
  | none =>
    if taking.rule.front then
      let (token, _) := indexed.made setting taking
      some
        { pushed with
          stack := pushed.stack ++ [pushed.nodes.length - 1]
          events := .opened token.kind token.start :: pushed.events }
    else some pushed

/-- Goes past one character, which stays text. -/
def skipChar (indexed : Indexed) : Indexed :=
  match indexed.rest with
  | [] => indexed
  | c :: rest =>
    { indexed with rest, position := indexed.position + 1, pending := c :: indexed.pending }

/-- Notes which rules the nesting limit refused, and what is known of the closers. -/
def note (setting : Setting) (indexed : Indexed) (refused : List Kind) (known : Sightings) :
    Indexed :=
  let refusals := refused.map fun kind => Event.refused kind (setting.offset + indexed.position)
  { indexed with known, events := refusals.reverse ++ indexed.events }

/-- The rule that a step takes, if any, and the state at which it does. -/
def prepare? (setting : Setting) (indexed : Indexed) : Option (Indexed × Option Taking) := do
  let mode ← indexed.mode? setting
  let (refused, taking, known) ← indexed.choose? setting (setting.rules mode)
  return (indexed.note setting refused known, taking)

/-- Makes one step. -/
def step? (setting : Setting) (indexed : Indexed) : Option Indexed := do
  let (noted, taking) ← indexed.prepare? setting
  match taking with
  | some taking => noted.accept? setting taking
  | none => return noted.skipChar

/-- Makes steps until the text is read, and at most `bound` of them. -/
def run? (setting : Setting) : Nat → Indexed → Option Indexed
  | 0, indexed => some indexed
  | bound + 1, indexed =>
    if indexed.rest.isEmpty then some indexed
    else (indexed.step? setting).bind (run? setting bound)

/-- Ends a scan: what is pending becomes a token, and the fronts still open are given up. -/
def finish? (setting : Setting) (indexed : Indexed) : Option Outcome := do
  let flushed := indexed.flush setting
  let ended ← flushed.stack.foldlM demote? { flushed with stack := [] }
  return ⟨Token.coalesce (ended.nodes.map Node.token), ended.events⟩

/-- Reads a text from its start to its end. -/
def scanText? (setting : Setting) (text : Text) : Option Outcome :=
  ((initial text).run? setting text.length).bind (finish? setting)

end Indexed

end Scan

end PassageMarkup
