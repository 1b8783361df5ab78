import PassageMarkup.Proofs.Rule.Written
import PassageMarkup.Proofs.Scan.Nesting

/-!
# Following a scan

Where it is known what the rules find, a scan can be followed step by step.  A step opens a front,
closes the innermost front, adds a token or goes past a character, and `Writes` puts such steps
together to the tokens that a part of the text adds.
-/

namespace PassageMarkup

namespace Scan

namespace State

variable {setting : Setting} {state : State} {rule : Rule} {lexeme : Lexeme}
  {pairing : Option Pairing} {text tail place : Text}

theorem judge_eq_skip (nothing : rule.pattern.find? state.rest = none) :
    state.judge setting rule = .skip := by
  unfold judge
  split
  · simp [nothing]
  · rfl

theorem judge_eq_skip_of_unpaired (notFront : rule.front = false) (isBack : rule.closes ≠ [])
    (unpaired : ∀ arity, Frame.pairing? rule arity state.frames = none) :
    state.judge setting rule = .skip := by
  have lexemes : ∀ lexeme, state.judgeLexeme setting rule lexeme = .skip := by
    intro lexeme
    simp [judgeLexeme, unpaired, notFront, isBack]
  simp only [judge, lexemes]
  split
  · split
    · rfl
    · split <;> rfl
  · rfl

theorem choose_append {earlier later : List Rule}
    (skipped : ∀ rule ∈ earlier, state.judge setting rule = .skip) :
    state.choose setting (earlier ++ later) = state.choose setting later := by
  induction earlier with
  | nil => rfl
  | cons rule earlier induction =>
      rw [List.forall_mem_cons] at skipped
      rw [List.cons_append, choose, skipped.1]
      exact induction skipped.2

theorem choose_filter {rules : List Rule} {p : Rule → Bool}
    (skipped : ∀ rule ∈ rules, p rule = false → state.judge setting rule = .skip) :
    state.choose setting (rules.filter p) = state.choose setting rules := by
  induction rules with
  | nil => rfl
  | cons rule rules induction =>
      rw [List.forall_mem_cons] at skipped
      cases kept : p rule with
      | true =>
          rw [List.filter_cons_of_pos kept, choose, choose, induction skipped.2]
      | false =>
          rw [List.filter_cons_of_neg (by simp [kept]), choose, skipped.1 kept,
            induction skipped.2]

/-- Only the rules that can begin with the next character have to be tried. -/
theorem choose_live {mode : Mode} {c : Char} {rest : Text} (ahead : state.rest = c :: rest) :
    state.choose setting (Rule.live mode c) = state.choose setting (Rule.ofMode mode) := by
  apply choose_filter
  intro rule _ cannot
  apply judge_eq_skip
  rw [ahead]
  exact Pattern.find?_eq_none_of_starts cannot

theorem choice?_live {c : Char} {rest : Text} (rules : setting.rules = Rule.ofMode)
    (ahead : state.rest = c :: rest) :
    state.choice? setting = (state.choose setting (Rule.live (state.mode setting) c)).2 := by
  rw [choice?, rules, choose_live ahead]

/-- The first rule that is not skipped is chosen if it is accepted. -/
theorem choice?_eq_some_of_skipped {c : Char} {rest : Text} {earlier later : List Rule}
    (rules : setting.rules = Rule.ofMode) (ahead : state.rest = c :: rest)
    (live : Rule.live (state.mode setting) c = earlier ++ rule :: later)
    (skipped : ∀ other ∈ earlier, state.judge setting other = .skip)
    (accepted : state.judge setting rule = .accept lexeme pairing) :
    state.choice? setting = some ⟨rule, lexeme, pairing⟩ := by
  rw [choice?_live rules ahead, live, choose_append skipped, choose, accepted]

theorem choice?_eq_some {c : Char} {rest : Text} {earlier later : List Rule}
    (rules : setting.rules = Rule.ofMode) (ahead : state.rest = c :: rest)
    (live : Rule.live (state.mode setting) c = earlier ++ rule :: later)
    (nothing : ∀ other ∈ earlier, other.pattern.find? state.rest = none)
    (accepted : state.judge setting rule = .accept lexeme pairing) :
    state.choice? setting = some ⟨rule, lexeme, pairing⟩ := by
  refine choice?_eq_some_of_skipped rules ahead live ?_ accepted
  intro other member
  exact judge_eq_skip (nothing other member)

end State

/-- In a mode, a rule is the first to find something where `text` and `tail` are ahead, and it takes
`text`, which gives a name or none. -/
structure Reads (mode : Mode) (rule : Rule) (name : Option Text) (text tail : Text) : Prop where
  free : rule.beginsLine = false ∧ rule.cannotFollowText = false ∧ rule.closer = none
  first : ∃ c rest earlier later, text ++ tail = c :: rest ∧
    Rule.live mode c = earlier ++ rule :: later ∧
    ∀ other ∈ earlier, other.pattern.find? (text ++ tail) = none
  found : ∃ found, rule.pattern.find? (text ++ tail) = some found ∧ found.text = text ∧
    rule.lexeme found = .delimiter text.length 0 name

namespace Reads

variable {setting : Setting} {state : State} {mode : Mode} {rule : Rule} {name : Option Text}
  {text tail : Text} {lexeme : Lexeme} {pairing : Option Pairing}

theorem append_ne_nil (reads : Reads mode rule name text tail) : text ++ tail ≠ [] := by
  obtain ⟨c, rest, earlier, later, begins, live, nothing⟩ := reads.first
  simp [begins]

theorem judge_eq (reads : Reads mode rule name text tail) (ahead : state.rest = text ++ tail) :
    state.judge setting rule = state.judgeLexeme setting rule (.delimiter text.length 0 name) := by
  obtain ⟨found, success, same, lexeme⟩ := reads.found
  have admitted : state.admits setting rule = true := by
    simp [State.admits, reads.free]
  have positive := (Pattern.find?_splitsOff success).length_pos
  rw [same] at positive
  have fits : ¬(text.length = 0 ∨ (text ++ tail).length < text.length) := by
    rw [List.length_append]
    omega
  simp only [State.judge, admitted, ahead, success, lexeme, Lexeme.delimiter]
  simp [Nat.ne_of_gt positive]

theorem choice?_eq (reads : Reads mode rule name text tail) (rules : setting.rules = Rule.ofMode)
    (current : state.mode setting = mode) (ahead : state.rest = text ++ tail)
    (accepted : state.judgeLexeme setting rule (.delimiter text.length 0 name) =
      .accept lexeme pairing) :
    state.choice? setting = some ⟨rule, lexeme, pairing⟩ := by
  obtain ⟨c, rest, earlier, later, begins, live, nothing⟩ := reads.first
  rw [← current] at live
  rw [← ahead] at begins nothing
  apply State.choice?_eq_some rules begins live nothing
  rw [reads.judge_eq ahead, accepted]

end Reads

namespace State

variable {setting : Setting} {state : State} {mode : Mode} {rule : Rule} {name : Option Text}
  {text tail : Text}

theorem step_skips {c : Char} {rest : Text} (ahead : state.rest = c :: rest)
    (nothing : state.choice? setting = none) :
    ∃ events, state.step setting =
      ⟨rest, state.position + 1, c :: state.pending, state.siblings, state.frames, events⟩ := by
  have noted : (state.noted setting).rest = c :: rest := ahead
  rw [step_eq_noted, nothing]
  simp only [skipChar, noted]
  exact ⟨_, rfl⟩

theorem step_eq_add {pairing : Option Pairing} (ahead : state.rest = text ++ tail)
    (chosen : state.choice? setting = some ⟨rule, .delimiter text.length 0 name, pairing⟩) :
    ∃ events, state.step setting =
      add setting ⟨tail, state.position + text.length, [], (state.flush setting).siblings,
        state.frames, events⟩ ⟨rule, .delimiter text.length 0 name, pairing⟩
        (.delimiter rule.kind (setting.offset + state.position) text setting.place name) := by
  let choice : Choice := ⟨rule, .delimiter text.length 0 name, pairing⟩
  have token : choice.token setting (state.noted setting) =
      .delimiter rule.kind (setting.offset + state.position) text setting.place name := by
    simp [choice, Choice.token, makeToken, Lexeme.delimiter, Token.delimiter, noted, ahead]
    rfl
  have advanced : (state.noted setting).advance setting choice =
      ⟨tail, state.position + text.length, [], (state.flush setting).siblings, state.frames,
        ((state.noted setting).advance setting choice).events⟩ := by
    have rest : (state.noted setting).rest.drop text.length = tail := by
      simp [noted, ahead]
    have siblings :
        ((state.noted setting).flush setting).siblings = (state.flush setting).siblings :=
      flush_siblings_withEvents _
    have frames : ((state.noted setting).flush setting).frames = state.frames := flush_frames
    have pending : ((state.noted setting).flush setting).pending = [] := flush_pending
    simp only [advance, choice, Lexeme.delimiter, rest, siblings, frames, pending]
    rfl
  rw [step_eq_noted, chosen]
  simp only
  rw [accept_eq, token, advanced]
  exact ⟨_, rfl⟩

/-- A state right after a rule took a front at another state. -/
structure Opens (setting : Setting) (state : State) (rule : Rule) (name : Option Text)
    (text tail : Text) (opened : State) : Prop where
  rest_eq : opened.rest = tail
  position_eq : opened.position = state.position + text.length
  pending_eq : opened.pending = []
  siblings_eq : opened.siblings = []
  frames_eq : opened.frames =
    ⟨rule, 0, .delimiter rule.kind (setting.offset + state.position) text setting.place name,
      (state.flush setting).siblings⟩ :: state.frames

theorem Opens.mode_eq {opened : State} (opens : state.Opens setting rule name text tail opened)
    (innerMode : rule.innerMode = some mode) : opened.mode setting = mode := by
  simp [State.mode, opens.frames_eq, innerMode]

theorem Opens.frames_length {opened : State}
    (opens : state.Opens setting rule name text tail opened) :
    opened.frames.length = state.frames.length + 1 := by
  rw [opens.frames_eq, List.length_cons]

theorem step_opens (rules : setting.rules = Rule.ofMode) (current : state.mode setting = mode)
    (ahead : state.rest = text ++ tail) (reads : Reads mode rule name text tail)
    (isFront : rule.front = true) (closesNothing : rule.closes = [])
    (room : state.frames.length < setting.room) :
    state.Opens setting rule name text tail (state.step setting) := by
  have accepted : state.judgeLexeme setting rule (.delimiter text.length 0 name) =
      .accept (.delimiter text.length 0 name) none := by
    simp [judgeLexeme, Frame.pairing?_of_closes_eq_nil closesNothing, isFront,
      Nat.not_le_of_lt room]
  obtain ⟨events, step⟩ := step_eq_add ahead (reads.choice?_eq rules current ahead accepted)
  rw [step]
  simp only [add, isFront, if_true]
  exact ⟨rfl, rfl, rfl, rfl, rfl⟩

theorem step_adds (rules : setting.rules = Rule.ofMode) (current : state.mode setting = mode)
    (ahead : state.rest = text ++ tail) (reads : Reads mode rule name text tail)
    (notFront : rule.front = false) (closesNothing : rule.closes = []) :
    ∃ events, state.step setting =
      ⟨tail, state.position + text.length, [],
        .delimiter rule.kind (setting.offset + state.position) text setting.place name ::
          (state.flush setting).siblings, state.frames, events⟩ := by
  have accepted : state.judgeLexeme setting rule (.delimiter text.length 0 name) =
      .accept (.delimiter text.length 0 name) none := by
    simp [judgeLexeme, Frame.pairing?_of_closes_eq_nil closesNothing, notFront, closesNothing]
  obtain ⟨events, step⟩ := step_eq_add ahead (reads.choice?_eq rules current ahead accepted)
  rw [step]
  simp only [add, notFront, Bool.false_eq_true, if_false]
  exact ⟨_, rfl⟩

theorem step_closes {kind : Kind} {frame : Frame} {outer : List Frame}
    (rules : setting.rules = Rule.ofMode) (fold : setting.fold = true)
    (current : state.mode setting = mode) (ahead : state.rest = text ++ tail)
    (reads : Reads mode rule name text tail) (frames : state.frames = frame :: outer)
    (resolves : rule.resolves frame.front.kind frame.rule.aka frame.arity 0 = some kind) :
    ∃ events, state.step setting =
      ⟨tail, state.position + text.length, [],
        foldPair kind frame.front (Token.coalesce (state.flush setting).siblings.reverse)
          (.delimiter rule.kind (setting.offset + state.position) text setting.place name) ::
          frame.before, outer, events⟩ := by
  have accepted : state.judgeLexeme setting rule (.delimiter text.length 0 name) =
      .accept (.delimiter text.length 0 name) (some ⟨[], frame, outer, kind⟩) := by
    simp only [judgeLexeme, Lexeme.delimiter, frames, Frame.pairing?, resolves]
  obtain ⟨events, step⟩ := step_eq_add ahead (reads.choice?_eq rules current ahead accepted)
  rw [step]
  simp only [add, close, fold, if_true, Frame.unwind]
  exact ⟨_, rfl⟩

/-- The tokens that a scan returns from a state on. -/
def remaining (setting : Setting) (state : State) : List Token :=
  ((state.run setting state.rest.length).finish setting).tokens

theorem run_of_ended (bound : Nat) (ended : state.rest = []) : state.run setting bound = state := by
  cases bound with
  | zero => rfl
  | succ bound => rw [run, if_pos (by simp [ended])]

theorem run_add (first second : Nat) :
    state.run setting (first + second) = (state.run setting first).run setting second := by
  induction first generalizing state with
  | zero => rw [Nat.zero_add, run]
  | succ first induction =>
      rw [Nat.succ_add, run, run]
      split
      · rename_i ended
        exact (run_of_ended second (List.isEmpty_iff.mp ended)).symm
      · exact induction

theorem run_of_le {bound : Nat} (enough : state.rest.length ≤ bound) :
    state.run setting bound = state.run setting state.rest.length := by
  obtain ⟨more, rfl⟩ := Nat.exists_eq_add_of_le enough
  rw [run_add]
  exact run_of_ended more (run_rest (Nat.le_refl _))

theorem remaining_step (ahead : state.rest ≠ []) :
    (state.step setting).remaining setting = state.remaining setting := by
  have shorter : (state.step setting).rest.length < state.rest.length := step_rest_lt ahead
  obtain ⟨bound, length⟩ := Nat.exists_eq_add_one_of_ne_zero (Nat.ne_zero_of_lt shorter)
  have enough : (state.step setting).rest.length ≤ bound := by omega
  rw [remaining, remaining, length, run, if_neg (by simpa using ahead), run_of_le enough]

theorem remaining_of_ended (ended : state.rest = []) :
    state.remaining setting =
      Token.coalesce (Frame.unwind (state.flush setting).siblings state.frames).reverse := by
  rw [remaining, run_of_ended _ ended, finish, flush_frames]

theorem remaining_of_whole {choice : Choice} (nonempty : text ≠ [])
    (chosen : (initial text).choice? setting = some choice)
    (whole : choice.lexeme.length = text.length) (unpaired : choice.pairing = none)
    (notFront : choice.rule.front = false) :
    (initial text).remaining setting = [choice.token setting (initial text)] := by
  have step : (initial text).step setting =
      ((initial text).noted setting).accept setting choice := by
    rw [step_eq_noted, chosen]
  have ended : (((initial text).noted setting).accept setting choice).rest = [] := by
    rw [accept_rest, whole]
    exact List.drop_length
  rw [← remaining_step nonempty, step, remaining_of_ended ended, accept_eq, add, unpaired]
  simp only [notFront, Bool.false_eq_true, if_false]
  rfl

/-- A scan goes on from one state to another past a text, to which it gives tokens. -/
structure Writes (setting : Setting) (state : State) (text : Text) (tokens : List Token)
    (later : State) : Prop where
  remaining_eq : later.remaining setting = state.remaining setting
  rest_eq : state.rest = text ++ later.rest
  position_eq : later.position = state.position + text.length
  frames_eq : later.frames = state.frames
  siblings_eq : (later.flush setting).siblings = tokens.reverse ++ (state.flush setting).siblings

namespace Writes

theorem refl (state : State) : state.Writes setting [] [] state :=
  ⟨rfl, rfl, rfl, rfl, rfl⟩

theorem trans {middle later : State} {left right : Text} {leftTokens rightTokens : List Token}
    (first : state.Writes setting left leftTokens middle)
    (second : middle.Writes setting right rightTokens later) :
    state.Writes setting (left ++ right) (leftTokens ++ rightTokens) later := by
  constructor
  · rw [second.remaining_eq, first.remaining_eq]
  · rw [first.rest_eq, second.rest_eq, List.append_assoc]
  · rw [second.position_eq, first.position_eq, List.length_append, Nat.add_assoc]
  · rw [second.frames_eq, first.frames_eq]
  · rw [second.siblings_eq, first.siblings_eq, List.reverse_append, List.append_assoc]

theorem mode_eq {later : State} {tokens : List Token}
    (writes : state.Writes setting text tokens later) :
    later.mode setting = state.mode setting := by
  rw [State.mode, State.mode, writes.frames_eq]

end Writes

end State
end Scan
end PassageMarkup
