import PassageMarkup.Proofs.Document.Delimiters
import PassageMarkup.Proofs.Document.Parts
import PassageMarkup.Proofs.Rule.Backticks
import PassageMarkup.Proofs.Rule.Closer
import PassageMarkup.Proofs.Scan.Free
import PassageMarkup.Proofs.Scan.HookBacks

/-!
# Openers without a closer

An opener whose closer does not follow is given up at the end of its text and joined to the text
before it.  Whatever stands behind it can open, close and give up other fronts, but only its own
closer would take the opener off the stack.
-/

namespace PassageMarkup

namespace Rule

variable {body : Text}

theorem strong_finds_nothing (apart : '*' ∉ body) :
    (ofEmphasis .strong).pattern.find? ('*' :: body) = none := by
  rw [Option.eq_none_iff_forall_ne_some]
  intro found success
  obtain ⟨splits, same⟩ := Pattern.find?_plain success
  have ahead := splits.remaining_eq
  rw [same] at ahead
  apply apart
  rw [(List.cons_eq_cons.mp ahead).2]
  exact List.mem_cons_self

theorem link_finds_no_end (apart : ']' ∉ body) : link.pattern.find? ('[' :: body) = none := by
  rw [Option.eq_none_iff_forall_ne_some]
  intro found success
  have member : link ∈ ofMode .prose := by simp [ofMode, prose]
  have occurs : Closer.linkEnd.text <:+: '[' :: body := closer_occurs member rfl success
  have inside : ']' ∈ '[' :: body := occurs.subset List.mem_cons_self
  rcases List.mem_cons.mp inside with same | later
  · exact absurd same (by decide)
  · exact apart later

theorem unclosedHook_finds_no_equals (notEquals : body.head? ≠ some '=') :
    unclosedHook.pattern.find? ('[' :: body) = none := by
  rw [Option.eq_none_iff_forall_ne_some]
  intro found success
  rcases find?_unclosedHook success with ahead | ⟨_, _, ahead⟩
  · apply notEquals
    rw [(List.cons_eq_cons.mp ahead).2]
    rfl
  · exact absurd (List.cons_eq_cons.mp ahead).1 (by decide)

end Rule

/-- What opens a pair in prose. -/
inductive Opener where
  | emphasis (kind : Emphasis)
  | hook
  | namedHook (name : CallName)
  | collapsed
  | call (name : CallName)
  | verbatim

namespace Opener

def text : Opener → Text
  | .emphasis kind => Rule.emphasisMark kind
  | .hook => ['[']
  | .namedHook name => ['|'] ++ name.1 ++ ['>', '[']
  | .collapsed => ['\x7b']
  | .call name => ['('] ++ name.1 ++ [':']
  | .verbatim => ['\x60']

/-- A text that everything that closes the opener contains. -/
def closer : Opener → Text
  | .emphasis kind => Rule.emphasisMark kind
  | .hook => [']']
  | .namedHook _ => [']']
  | .collapsed => ['\x7d']
  | .call _ => [')']
  | .verbatim => ['\x60']

def rule : Opener → Rule
  | .emphasis kind => .ofEmphasis kind
  | .hook => .hookFront
  | .namedHook _ => .hookPrependedFront
  | .collapsed => .collapsedFront
  | .call _ => .macroFront
  | .verbatim => .verbatimOpener

variable {opener : Opener} {body text : Text}

theorem rule_mem (opener : Opener) : opener.rule ∈ Rule.ofMode .prose := by
  cases opener with
  | emphasis kind => cases kind <;> simp [rule, Rule.ofMode, Rule.prose, Emphasis.all]
  | _ => simp [rule, Rule.ofMode, Rule.prose]

theorem rule_front (opener : Opener) : opener.rule.front = true := by
  cases opener <;> rfl

theorem rule_free (opener : Opener) :
    opener.rule.beginsLine = false ∧ opener.rule.cannotFollowText = false ∧
      opener.rule.closer = none := by
  cases opener <;> exact ⟨rfl, rfl, rfl⟩

/-- Every back that closes an opener contains its closer. -/
theorem closer_isInfix {back pair : Kind} {arity : Nat} {name : Option Text}
    (closes : Closes back opener.rule.kind pair arity name text) : opener.closer <:+: text := by
  cases opener with
  | emphasis kind =>
      cases closes
      exact List.infix_refl _
  | hook =>
      cases closes with
      | hook => exact List.infix_refl _
      | hookNamed => exact (List.prefix_append [']'] _).isInfix
  | namedHook =>
      cases closes
      exact List.infix_refl _
  | collapsed =>
      cases closes
      exact List.infix_refl _
  | call =>
      cases closes
      exact List.infix_refl _
  | verbatim =>
      cases closes with
      | verbatim length => exact (List.prefix_append ['\x60'] _).isInfix

/-- What follows an opener neither closes it nor makes it the start of a hook without an end. -/
structure Unclosed (opener : Opener) (body : Text) : Prop where
  noCloser : ¬opener.closer <:+: body
  notEquals : opener.text.getLast? = some '[' → body.head? ≠ some '='

theorem Unclosed.not_mem {c : Char} (unclosed : opener.Unclosed body) (single : opener.closer = [c]) :
    c ∉ body := by
  intro member
  obtain ⟨before, after, rfl⟩ := List.append_of_mem member
  apply unclosed.noCloser
  rw [single]
  exact ⟨before, after, by simp⟩

theorem Unclosed.finds (unclosed : opener.Unclosed body) :
    ∃ found, opener.rule.pattern.find? (opener.text ++ body) = some found ∧
      (opener.rule.lexeme found).length = opener.text.length := by
  cases opener with
  | emphasis kind =>
      refine ⟨_, Pattern.find?_plain_append ?_, rfl⟩
      cases kind <;> decide
  | hook =>
      refine ⟨_, Rule.finds_hookFront ?_, rfl⟩
      rintro c head rfl
      exact unclosed.notEquals rfl head
  | namedHook name => exact ⟨_, Rule.finds_hookPrependedFront name.2, rfl⟩
  | collapsed => exact ⟨_, Pattern.find?_plain_append (by decide), rfl⟩
  | call name => exact ⟨_, Rule.finds_macroFront name.2, rfl⟩
  | verbatim =>
      obtain ⟨found, success⟩ := Rule.finds_verbatim body
      refine ⟨found, success, ?_⟩
      obtain ⟨run, positive⟩ := Rule.find?_verbatim success
      have ahead := (Pattern.find?_splitsOff success).remaining_eq
      change found.text.length = 1
      rcases Nat.exists_eq_add_one_of_ne_zero (Nat.ne_of_gt positive) with ⟨more, length⟩
      cases more with
      | zero => exact length
      | succ more =>
          rw [run, length, List.replicate_succ, List.replicate_succ] at ahead
          have member : '\x60' ∈ body := by
            rw [(List.cons_eq_cons.mp ahead).2]
            simp
          exact absurd member (unclosed.not_mem rfl)

/-- Of the rules that can begin with an opener, those before its own do not apply in the middle of a
line or find nothing. -/
theorem Unclosed.first (unclosed : opener.Unclosed body) :
    ∃ c rest earlier later, opener.text ++ body = c :: rest ∧
      Rule.live .prose c = earlier ++ opener.rule :: later ∧
      ∀ other ∈ earlier, other.cannotFollowText = true ∨
        other.pattern.find? (opener.text ++ body) = none := by
  have ofReads {name : Option Text} (reads : Scan.Reads .prose opener.rule name opener.text body) :
      ∃ c rest earlier later, opener.text ++ body = c :: rest ∧
        Rule.live .prose c = earlier ++ opener.rule :: later ∧
        ∀ other ∈ earlier, other.cannotFollowText = true ∨
          other.pattern.find? (opener.text ++ body) = none := by
    obtain ⟨c, rest, earlier, later, begins, live, nothing⟩ := reads.first
    exact ⟨c, rest, earlier, later, begins, live, fun other member => .inr (nothing other member)⟩
  cases opener with
  | emphasis kind =>
      cases kind with
      | strong =>
          refine ⟨'*', _, [Rule.bulleted], [Rule.ofEmphasis .em], rfl, rfl, ?_⟩
          rw [List.forall_mem_singleton]
          exact .inl rfl
      | em =>
          refine ⟨'*', _, [Rule.bulleted, Rule.ofEmphasis .strong], [], rfl, rfl, ?_⟩
          rw [List.forall_mem_cons, List.forall_mem_singleton]
          refine ⟨.inl rfl, .inr ?_⟩
          exact Rule.strong_finds_nothing (unclosed.not_mem rfl)
      | _ => exact ⟨_, _, [], [], rfl, rfl, by simp⟩
  | hook =>
      refine ⟨'[', body, [Rule.link, Rule.unclosedHook], [], rfl, rfl, ?_⟩
      rw [List.forall_mem_cons, List.forall_mem_singleton]
      constructor
      · exact .inr (Rule.link_finds_no_end (unclosed.not_mem rfl))
      · exact .inr (Rule.unclosedHook_finds_no_equals (unclosed.notEquals rfl))
  | namedHook name =>
      apply ofReads (Scan.reads_hookPrependedFront name.2 (unclosed.notEquals ?_))
      simp [text, List.getLast?_cons]
  | collapsed => exact ofReads Scan.reads_collapsedFront
  | call name => exact ofReads (Scan.reads_macroFront ⟨[], rfl⟩ name.2)
  | verbatim => exact ⟨'\x60', body, [], [], rfl, rfl, by simp⟩

end Opener

namespace Scan

variable {setting : Setting} {state : State} {choice : Choice} {pairing : Pairing}
  {opener : Opener} {frame : Frame} {body : Text}

/-- In the middle of a line and outside all fronts, an opener that is not closed is still read as an
opener. -/
theorem State.exists_choice_of_unclosed (rules : setting.rules = Rule.ofMode)
    (prose : setting.mode = .prose) (room : 0 < setting.room)
    (unclosed : opener.Unclosed body) (ahead : state.rest = opener.text ++ body)
    (midLine : state.pending ≠ []) (outside : state.frames = []) :
    ∃ choice, state.choice? setting = some choice ∧ choice.rule = opener.rule ∧
      choice.pairing = none ∧ choice.consumed state = opener.text := by
  obtain ⟨c, rest, earlier, later, begins, live, first⟩ := unclosed.first
  obtain ⟨found, success, length⟩ := unclosed.finds
  rw [← ahead] at begins first success
  have current : state.mode setting = .prose := by
    rw [State.mode, outside]
    exact prose
  have skipped : ∀ other ∈ earlier, state.judge setting other = .skip := by
    intro other member
    rcases first other member with apart | nothing
    · simp [State.judge, State.admits, apart, midLine]
    · exact State.judge_eq_skip nothing
  have admitted : state.admits setting opener.rule = true := by
    simp [State.admits, opener.rule_free]
  have opened : state.judgeLexeme setting opener.rule (opener.rule.lexeme found) =
      .accept (opener.rule.lexeme found) none := by
    simp [State.judgeLexeme, outside, Frame.pairing?, opener.rule_front, Nat.ne_of_gt room]
  have accepted : state.judge setting opener.rule = .accept (opener.rule.lexeme found) none := by
    rw [State.judge_of_admitted opener.rule_mem success admitted, opened]
  rw [← current] at live
  refine ⟨_, State.choice?_eq_some_of_skipped rules begins live skipped accepted, rfl, rfl, ?_⟩
  rw [Choice.consumed, length, ahead, List.take_left]

/-- A frame that an opener has made. -/
structure Frame.MadeBy (opener : Opener) (frame : Frame) : Prop where
  rule_eq : frame.rule = opener.rule
  kind_eq : frame.front.kind = opener.rule.kind
  text_eq : frame.front.text = opener.text

/-- A front stays open below all others while the text of `body` is ahead. -/
structure State.Keeps (frame : Frame) (body : Text) (state : State) : Prop where
  frame_suffix : [frame] <:+ state.frames
  rest_suffix : state.rest <:+ body

theorem Choice.Applies.closer_isInfix (applies : choice.Applies setting state)
    (rules : setting.rules = Rule.ofMode) (paired : choice.pairing = some pairing)
    (made : pairing.frame.MadeBy opener) : opener.closer <:+: state.rest := by
  have member : pairing.frame.rule ∈ Rule.ofMode .prose := by
    rw [made.rule_eq]
    exact opener.rule_mem
  have kind : pairing.frame.front.kind = pairing.frame.rule.kind := by
    rw [made.kind_eq, made.rule_eq]
  obtain ⟨name, closes⟩ := applies.closes_text rules paired member kind
  rw [made.kind_eq, choice.token_text] at closes
  exact (opener.closer_isInfix closes).trans (List.take_prefix _ _).isInfix

theorem keeps_kept (rules : setting.rules = Rule.ofMode) (unclosed : opener.Unclosed body)
    (made : frame.MadeBy opener) : Kept setting (State.Keeps frame body) where
  withEvents := fun _ _ keeps => ⟨keeps.frame_suffix, keeps.rest_suffix⟩
  skipChar := by
    intro state keeps
    unfold State.skipChar
    split
    · exact keeps
    · rename_i c rest ahead
      refine ⟨keeps.frame_suffix, (List.suffix_cons c rest).trans ?_⟩
      rw [← ahead]
      exact keeps.rest_suffix
  accept := by
    intro state choice applies keeps
    constructor
    · rw [State.accept_eq, State.add]
      split
      · rename_i pairing paired
        apply (applies.pairs paired).frame_suffix keeps.frame_suffix
        rintro rfl
        -- what closes this very front would bring its closer
        apply unclosed.noCloser
        exact (applies.closer_isInfix rules paired made).trans keeps.rest_suffix.isInfix
      · have frames : [frame] <:+ (state.advance setting choice).frames := by
          rw [State.advance_frames]
          exact keeps.frame_suffix
        split
        · exact frames.trans (List.suffix_cons _ _)
        · exact frames
    · rw [State.accept_rest]
      exact (List.drop_suffix _ _).trans keeps.rest_suffix

/-- At the end of a text, a front that is still open joins the text before it. -/
theorem State.Keeps.exists_remaining {before : Token} (keeps : state.Keeps frame body)
    (rules : setting.rules = Rule.ofMode) (unclosed : opener.Unclosed body)
    (made : frame.MadeBy opener) (alone : frame.before = [before])
    (plain : before.isPlainText = true) :
    ∃ first rest, state.remaining setting = first :: rest ∧ first.isPlainText = true ∧
      before.text ++ opener.text <+: first.text := by
  let final := state.run setting state.rest.length
  have ended : final.rest = [] := State.run_rest (Nat.le_refl _)
  have same : state.remaining setting = final.remaining setting := by
    rw [State.remaining, State.remaining, State.run_of_ended _ ended]
  obtain ⟨inner, frames⟩ := ((keeps_kept rules unclosed made).run keeps).frame_suffix
  have tokens : (Frame.unwind (final.flush setting).siblings final.frames).reverse =
      [before, frame.front.demote] ++
        (Frame.unwind (final.flush setting).siblings inner).reverse := by
    rw [← frames, Frame.unwind_eq, Frame.unwind_eq]
    simp [Frame.demotedTokens, alone]
  have plainTexts : ∀ text ∈ [before, frame.front.demote], text.isPlainText = true := by
    simp [plain]
  obtain ⟨first, rest, joined, isPlain, begins⟩ := Token.exists_coalesce_plain
    (Frame.unwind (final.flush setting).siblings inner).reverse plainTexts
  have written : Token.textOf [before, frame.front.demote] = before.text ++ opener.text := by
    rw [← made.text_eq]
    simp [Token.textOf, Token.demote]
  rw [written] at begins
  rw [same, State.remaining_of_ended ended, tokens]
  exact ⟨first, rest, joined, isPlain, begins⟩

/-- A step past an opener leaves it below all fronts to come. -/
theorem State.step_keeps (chosen : state.choice? setting = some choice)
    (sameRule : choice.rule = opener.rule) (unpaired : choice.pairing = none)
    (consumed : choice.consumed state = opener.text) (ahead : state.rest = opener.text ++ body)
    (outside : state.frames = []) :
    (choice.frame setting state).MadeBy opener ∧
      (state.step setting).Keeps (choice.frame setting state) body := by
  have applies := State.choice?_applies chosen
  have isFront : choice.rule.front = true := by
    rw [sameRule]
    exact opener.rule_front
  constructor
  · refine ⟨sameRule, ?_, ?_⟩
    · rw [← sameRule]
      exact choice.token_kind setting state
    · rw [← consumed]
      exact choice.token_text setting state
  · constructor
    · rw [(State.step_opens_front chosen unpaired isFront).2, outside]
    · rw [State.step_rest_of_some chosen, ← applies.length_consumed, consumed, ahead,
        List.drop_left]

/-- After a letter, an opener that is not closed is the outermost front, and so it remains. -/
theorem exists_remaining_of_unclosed (rules : setting.rules = Rule.ofMode)
    (prose : setting.mode = .prose) (room : 0 < setting.room) (unclosed : opener.Unclosed body) :
    ∃ first rest,
      (State.initial ('x' :: (opener.text ++ body))).remaining setting = first :: rest ∧
        first.isPlainText = true ∧ 'x' :: opener.text <+: first.text := by
  let start := State.initial ('x' :: (opener.text ++ body))
  have idle : start.choice? setting = none := by
    have inProse : start.mode setting = .prose := prose
    rw [State.choice?_live rules rfl, inProse]
    rfl
  obtain ⟨events, step⟩ := State.step_skips rfl idle
  let state := start.step setting
  have ahead : state.rest = opener.text ++ body := congrArg State.rest step
  have outside : state.frames = [] := congrArg State.frames step
  have pending : state.pending = ['x'] := congrArg State.pending step
  obtain ⟨choice, chosen, sameRule, unpaired, consumed⟩ :=
    State.exists_choice_of_unclosed rules prose room unclosed ahead (by simp [pending]) outside
  obtain ⟨made, keeps⟩ := State.step_keeps chosen sameRule unpaired consumed ahead outside
  have alone : (choice.frame setting state).before =
      [.leaf .text (setting.offset + start.position) ['x'] setting.place] :=
    congrArg (fun later : State => (later.flush setting).siblings) step
  have applies := State.choice?_applies chosen
  rw [← State.remaining_step (List.cons_ne_nil 'x' _), ← State.remaining_step applies.rest_ne_nil]
  exact keeps.exists_remaining rules unclosed made alone rfl

end Scan

namespace Lex

/-- An opener whose closer never follows stays in the text before it. -/
theorem lex_unclosed (options : Options) (prose : options.mode = .prose)
    (room : 0 < options.maxDepth) {opener : Opener} {body : Text}
    (unclosed : opener.Unclosed body) :
    ∃ first rest, (lex options ('x' :: (opener.text ++ body))).children = first :: rest ∧
      first.kind = .text ∧ 'x' :: opener.text <+: first.text := by
  let source := 'x' :: (opener.text ++ body)
  let setting := Scan.readSetting Rule.ofMode options.fold options.place options.maxDepth
    options.mode true 0 source
  have children : (lex options source).children =
      (Scan.State.initial source).remaining setting :=
    congrArg Scan.Outcome.tokens (Scan.read_eq _ _ _ _ _ _ _ _)
  obtain ⟨first, rest, same, plain, begins⟩ :=
    @Scan.exists_remaining_of_unclosed setting opener body rfl prose room unclosed
  exact ⟨first, rest, children.trans same, (Token.isPlainText_iff.mp plain).1, begins⟩

/-- A call that is never closed stays text, although a hook is closed in its arguments. -/
theorem call_stays_text :
    ∃ first rest, (lex {} "x(a:[b]//".toList).children = first :: rest ∧
      first.kind = .text ∧ "x(a:".toList <+: first.text :=
  @lex_unclosed {} rfl (by decide)
    (.call ⟨['a'], List.cons_ne_nil _ _, List.forall_mem_singleton.mpr rfl⟩) "[b]//".toList
    ⟨by decide, by decide⟩

end Lex

end PassageMarkup
