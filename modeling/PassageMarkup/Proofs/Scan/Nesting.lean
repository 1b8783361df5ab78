import PassageMarkup.Proofs.Scan.Pairing
import PassageMarkup.Proofs.Scan.Steps
import PassageMarkup.Proofs.Token.Formed

/-!
# Nested fronts

The open fronts of a scan nest: each is of a rule of the mode around it, and the tokens on its left
are formed in that mode.  A back passes only fronts that have its own mode inside, so all tokens
that it encloses are formed in the mode of the pair.
-/

namespace PassageMarkup

namespace Scan

open Token

variable {setting : Setting} {state : State} {place : Text}

/-- An open front is written as its rule says; the modes around it and inside it come first. -/
structure Frame.Opened (place : Text) (around inside : Mode) (frame : Frame) : Prop where
  rule_mem : frame.rule ∈ Rule.ofMode around
  isFront : frame.rule.front = true
  innerMode_eq : frame.rule.innerMode = some inside
  front_eq : ∃ name text start, frame.front = .delimiter frame.rule.kind start text place name ∧
    Opens frame.rule.kind frame.arity name text

/-- Open fronts in a text of the mode `outside`; the mode inside all of them comes last. -/
inductive Frame.Nested (place : Text) (outside : Mode) : List Frame → Mode → Prop where
  | nil : Nested place outside [] outside
  | cons {frame : Frame} {outer : List Frame} {around inside : Mode} :
      Nested place outside outer around →
      (∀ token ∈ frame.before, Formed around token) →
      frame.Opened place around inside →
      Nested place outside (frame :: outer) inside

namespace Frame

theorem Opened.kind_eq {frame : Frame} {around inside : Mode}
    (opened : frame.Opened place around inside) : frame.front.kind = frame.rule.kind := by
  obtain ⟨name, text, start, front, _⟩ := opened.front_eq
  rw [front]
  rfl

theorem Nested.of_append {outside inside : Mode} {inner outer : List Frame}
    (nested : Nested place outside (inner ++ outer) inside) :
    ∃ around, Nested place outside outer around := by
  induction inner generalizing inside with
  | nil => exact ⟨inside, nested⟩
  | cons frame inner induction =>
      cases nested with
      | cons deeper before opened => exact induction deeper

/-- Fronts that a back passes have the mode of its pair around and inside them.  The induction goes
from the closed front inwards: a front with that mode around it would stop the search unless it had
the same mode inside. -/
theorem Nested.passed {outside inside other mode : Mode} {rule : Rule} {abandoned : List Frame}
    {frame : Frame} {outer : List Frame} {closed : Kind × Kind} (member : rule ∈ Rule.ofMode mode)
    (closes : closed ∈ rule.closes) (pairMode : closed.2.pairMode = some inside)
    (innerMode : frame.rule.innerMode = some inside)
    (passes : ∀ frame ∈ abandoned, rule.stopsAt frame.front.kind frame.rule.aka = false)
    (nested : Nested place outside (abandoned ++ frame :: outer) other) :
    other = inside ∧ ∀ token ∈ demotedTokens abandoned, Formed inside token := by
  induction abandoned generalizing other with
  | nil =>
      cases nested with
      | cons deeper before opened =>
          have same := opened.innerMode_eq.symm.trans innerMode
          exact ⟨by simpa using same, by simp [demotedTokens]⟩
  | cons first abandoned induction =>
      rw [List.forall_mem_cons] at passes
      cases nested with
      | cons deeper before opened =>
          obtain ⟨rfl, formed⟩ := induction passes.2 deeper
          have passable := passes.1
          rw [opened.kind_eq] at passable
          have stays : first.rule.innerMode = some _ :=
            (Rule.stopsAt_or_innerMode_eq member closes pairMode opened.rule_mem
              opened.isFront).resolve_left (by simp [passable])
          refine ⟨by simpa using opened.innerMode_eq.symm.trans stays, ?_⟩
          intro token enclosed
          rcases mem_demotedTokens_cons.mp enclosed with rfl | left | right
          · exact .text (demote_demote _)
          · exact before token left
          · exact formed token right

/-- Giving up all fronts leaves tokens that are each formed in the mode around them. -/
theorem Nested.demotedTokens_formed {outside inside : Mode} {frames : List Frame}
    (nested : Nested place outside frames inside) :
    ∀ token ∈ demotedTokens frames, ∃ mode, Formed mode token := by
  induction nested with
  | nil => simp [demotedTokens]
  | cons deeper before opened induction =>
      intro token member
      rcases mem_demotedTokens_cons.mp member with rfl | left | right
      · exact ⟨.prose, .text (demote_demote _)⟩
      · exact ⟨_, before token left⟩
      · exact induction token right

theorem Nested.mode_eq {current : Mode}
    (nested : Nested setting.place setting.mode state.frames current) :
    state.mode setting = current := by
  unfold State.mode
  revert nested
  cases state.frames with
  | nil =>
      intro nested
      cases nested
      rfl
  | cons frame outer =>
      intro nested
      cases nested with
      | cons deeper before opened => simp [opened.innerMode_eq]

end Frame

theorem Choice.token_of_delimiter {choice : Choice} {found : Match} {arity : Nat}
    {name : Option Text} (success : choice.rule.pattern.find? state.rest = some found)
    (delimits : choice.lexeme = .delimiter found.text.length arity name) :
    choice.token setting state = .delimiter choice.rule.kind (setting.offset + state.position)
      found.text setting.place name := by
  simp only [Choice.token, delimits, makeToken, Lexeme.delimiter, Token.delimiter,
    (Pattern.find?_splitsOff success).take_length]
  rfl

namespace Choice.Applies

variable {choice : Choice}

theorem token_front (applies : choice.Applies setting state) (rules : setting.rules = Rule.ofMode)
    (isFront : choice.rule.front = true) :
    ∃ name text,
      choice.token setting state = .delimiter choice.rule.kind (setting.offset + state.position)
        text setting.place name ∧
      Opens choice.rule.kind choice.lexeme.arity name text := by
  have member := applies.rule_mem_ofMode rules
  obtain ⟨found, success, lexemeEq⟩ := applies.found
  obtain ⟨arity, name, delimiter, opens⟩ := Rule.front_opens member isFront success
  have lexeme := lexemeEq.trans delimiter
  refine ⟨name, found.text, Choice.token_of_delimiter success lexeme, ?_⟩
  rw [lexeme]
  exact opens

theorem token_back (applies : choice.Applies setting state) (rules : setting.rules = Rule.ofMode)
    {front pair : Kind} (closes : (front, pair) ∈ choice.rule.closes) :
    ∃ name text,
      choice.token setting state = .delimiter choice.rule.kind (setting.offset + state.position)
        text setting.place name ∧
      Closes choice.rule.kind front pair choice.lexeme.arity name text := by
  have member := applies.rule_mem_ofMode rules
  obtain ⟨found, success, lexemeEq⟩ := applies.found
  obtain ⟨arity, name, delimiter, closesBack⟩ := Rule.back_closes member closes success
  have lexeme := lexemeEq.trans delimiter
  refine ⟨name, found.text, Choice.token_of_delimiter success lexeme, ?_⟩
  rw [lexeme]
  exact closesBack

end Choice.Applies

/-- What holds of a front that is closed in a text of the mode `outside`: its pair has the mode
`inside`, and so has everything that the pair encloses. -/
structure Pairing.Encloses (place : Text) (outside inside : Mode) (back : Token)
    (pairing : Pairing) : Prop where
  opened : ∃ around, Frame.Nested place outside pairing.outer around ∧
    (∀ token ∈ pairing.frame.before, Formed around token) ∧
    pairing.frame.Opened place around inside
  matched : Matched pairing.kind pairing.frame.front back
  pairMode_eq : pairing.kind.pairMode = some inside
  abandoned : ∀ token ∈ Frame.demotedTokens pairing.abandoned, Formed inside token

theorem Choice.Applies.encloses {choice : Choice} {pairing : Pairing} {outside inside : Mode}
    (applies : choice.Applies setting state) (rules : setting.rules = Rule.ofMode)
    (nested : Frame.Nested setting.place outside state.frames inside)
    (paired : choice.pairing = some pairing) :
    pairing.Encloses setting.place outside inside (choice.token setting state) := by
  have member := applies.rule_mem_ofMode rules
  rw [applies.pairing_eq] at paired
  have pairs := Frame.pairing?_pairs paired
  rw [pairs.frames_eq] at nested
  obtain ⟨_, around⟩ := nested.of_append
  cases around with
  | cons deeper before opened =>
      have resolves := pairs.resolves_eq
      rw [opened.kind_eq] at resolves
      obtain ⟨closes, sameArity⟩ := Rule.closes_of_resolves member opened.rule_mem resolves
      have pairMode := Rule.pairMode_eq_innerMode member opened.rule_mem opened.isFront closes
      rw [opened.innerMode_eq] at pairMode
      obtain ⟨rfl, abandoned⟩ := nested.passed member closes pairMode opened.innerMode_eq
        fun frame passed => (pairs.passes frame passed).2
      refine ⟨⟨_, deeper, before, opened⟩, ?_, pairMode, abandoned⟩
      obtain ⟨backName, backText, backEq, closesBack⟩ := applies.token_back rules closes
      obtain ⟨frontName, frontText, frontStart, frontEq, opensFront⟩ := opened.front_eq
      rw [sameArity] at opensFront
      rw [frontEq, backEq]
      exact .intro setting.place frontStart _ opensFront closesBack

end Scan

end PassageMarkup
