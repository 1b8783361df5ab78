import PassageMarkup.Proofs.Scan.Formation
import PassageMarkup.Proofs.Scan.HookBacks
import PassageMarkup.Proofs.Scan.Tokens

/-!
# Verbatim spans

Inside an open run of backticks only runs of backticks are markup.  A run as long as an open one
closes it, so open runs all have different lengths, and so have a span and the spans inside it.
Everything else inside a span stays text.
-/

namespace PassageMarkup

namespace Token

/-- A verbatim span between two runs of a length. -/
structure Spans (length : Nat) (token : Token) : Prop where
  kind_eq : token.kind = .verbatim
  positive : 0 < length
  text_eq : token.text =
    List.replicate length '\x60' ++ token.inner ++ List.replicate length '\x60'

/-- What is inside a verbatim span: plain texts, which are not neighbours, and spans between runs of
another length.  Without such spans it is one plain text, or nothing. -/
structure KeepsText (length : Nat) (token : Token) : Prop where
  only : ∀ child ∈ token.children,
    child.isPlainText = true ∨ ∃ other, other ≠ length ∧ child.Spans other
  apart : token.children.IsChain fun left right =>
    left.isPlainText = false ∨ right.isPlainText = false
  whole : (∀ child ∈ token.children, child.kind ≠ .verbatim) →
    token.inner = [] ∧ token.children = [] ∨
      ∃ child, token.children = [child] ∧ child.kind = .text ∧ child.text = token.inner

/-- A token that is a verbatim span keeps the text inside it. -/
def Verbatim (token : Token) : Prop :=
  token.kind = .verbatim → ∃ length, token.Spans length ∧ token.KeepsText length

theorem Verbatim.of_kind_ne {token : Token} (notSpan : token.kind ≠ .verbatim) : token.Verbatim :=
  fun isSpan => absurd isSpan notSpan

theorem keepsText_of_apart {length : Nat} {token : Token}
    (inner : textOf token.children = token.inner)
    (apart : token.children.IsChain fun left right =>
      left.isPlainText = false ∨ right.isPlainText = false)
    (only : ∀ child ∈ token.children,
      child.isPlainText = true ∨ ∃ other, other ≠ length ∧ child.Spans other) :
    token.KeepsText length := by
  refine ⟨only, apart, fun noSpan => ?_⟩
  rw [← inner]
  have plain : ∀ child ∈ token.children, child.isPlainText = true := by
    intro child member
    rcases only child member with plain | ⟨other, _, spans⟩
    · exact plain
    · exact absurd spans.kind_eq (noSpan child member)
  cases children : token.children with
  | nil => exact .inl ⟨rfl, rfl⟩
  | cons child rest =>
      rw [children, List.forall_mem_cons] at plain
      cases rest with
      | nil => exact .inr ⟨child, rfl, (isPlainText_iff.mp plain.1).1, by simp [textOf]⟩
      | cons next others =>
          rw [List.forall_mem_cons] at plain
          rw [children, List.isChain_cons_cons, plain.1, plain.2.1] at apart
          simp at apart

theorem Formed.isPlainText {mode : Mode} {token : Token} (formed : Formed mode token)
    (isText : token.kind = .text) : token.isPlainText = true := by
  cases formed with
  | text plain =>
      rw [← plain]
      rfl
  | alone modeOf member notFront closesNothing takes inside =>
      exact absurd (takes.kind_eq.symm.trans isText) (Rule.kind_ne_text member)
  | pair member isFront sameKind pairMode matched inside =>
      have isPair := matched.isPair
      rw [foldPair_kind] at isText
      rw [isText] at isPair
      contradiction

/-- The length of the run of backticks that a token begins with. -/
def run? (token : Token) : Option Nat :=
  match token.kind with
  | .verbatimOpener => some token.text.length
  | .verbatim => some token.pairFrontLength
  | _ => none

theorem run?_eq_none {token : Token} (notOpener : token.kind ≠ .verbatimOpener)
    (notSpan : token.kind ≠ .verbatim) : token.run? = none := by
  unfold run?
  split
  · contradiction
  · contradiction
  · rfl

theorem Spans.run?_eq {token : Token} {length : Nat} (spans : token.Spans length) :
    token.run? = some length := by
  have frontKind : token.pairFrontKind = .verbatimOpener := by
    rw [pairFrontKind, spans.kind_eq]
  have outside : token.text.length - token.inner.length = length + length := by
    rw [spans.text_eq]
    simp only [List.length_append, List.length_replicate]
    omega
  simp only [run?, spans.kind_eq, pairFrontLength, frontKind, outside, Option.some.injEq]
  omega

theorem Delimited.spans {token : Token} (delimited : token.Delimited)
    (isVerbatim : token.kind = .verbatim) : ∃ length, token.Spans length := by
  obtain ⟨front, back, delimits, text⟩ := delimited.2 (by rw [isVerbatim]; rfl)
  rw [isVerbatim] at delimits
  generalize token.fields.name = name at delimits
  cases delimits with
  | verbatim positive => exact ⟨_, isVerbatim, positive, text⟩

theorem run?_delimiter {kind : Kind} {arity : Nat} {name : Option Text} {text : Text}
    (opens : Opens kind arity name text) (start : Nat) (place : Text) :
    (delimiter kind start text place name).run? = none ∨
      kind = .verbatimOpener ∧ (delimiter kind start text place name).run? = some arity := by
  cases opens with
  | verbatim length => exact .inr ⟨rfl, by simp [run?, delimiter, leaf]⟩
  | _ => exact .inl rfl

theorem Matched.run?_eq {kind : Kind} {front back : Token} (matched : Matched kind front back)
    (children : List Token) : (Scan.foldPair kind front children back).run? = front.run? := by
  have length := matched.pairFrontLength_eq children
  cases matched with
  | intro place start backStart opens closes =>
      cases closes with
      | verbatim =>
          cases opens
          exact congrArg some length
      | _ =>
          cases opens
          rfl

end Token

namespace Rule

variable {mode : Mode} {rule : Rule}

/-- The search for a run to close never stops before the last open front. -/
theorem of_kind_verbatimOpener (member : rule ∈ ofMode mode) (opener : rule.kind = .verbatimOpener) :
    rule.cannotCross = [] ∧ (.verbatimOpener, .verbatim) ∈ rule.closes := by
  have table : ∀ rule ∈ ofMode mode, rule.kind = .verbatimOpener →
      rule.cannotCross = [] ∧ (.verbatimOpener, .verbatim) ∈ rule.closes := by
    cases mode <;> decide
  exact table rule member opener

theorem kind_ne_verbatim (member : rule ∈ ofMode mode) : rule.kind ≠ .verbatim := by
  have table : ∀ rule ∈ ofMode mode, rule.kind ≠ .verbatim := by
    cases mode <;> decide
  exact table rule member

end Rule

namespace Scan

open Token

variable {setting : Setting} {state : State} {choice : Choice} {pairing : Pairing}
  {enclosed : List Token} {frames : List Frame}

theorem Frame.resolves_eq_none {rule : Rule} {arity : Nat} (crosses : rule.cannotCross = [])
    (unpaired : Frame.pairing? rule arity frames = none) :
    ∀ frame ∈ frames, rule.resolves frame.front.kind frame.rule.aka frame.arity arity = none := by
  have passable : ∀ kind aka, rule.stopsAt kind aka = false := by
    intro kind aka
    cases aka <;> simp [Rule.stopsAt, crosses]
  induction frames with
  | nil => simp
  | cons frame outer induction =>
      unfold Frame.pairing? at unpaired
      split at unpaired
      · contradiction
      · rename_i unresolved
        rw [if_neg (by simp [passable]), Option.map_eq_none_iff] at unpaired
        rw [List.forall_mem_cons]
        exact ⟨unresolved, induction unpaired⟩

/-- Nothing after an open run begins with a run of its length: no front that is open inside it, and
no span. -/
def Frame.Apart (enclosed : List Token) : List Frame → Prop
  | [] => True
  | frame :: outer =>
    (frame.front.run? = none ∨ ∀ token ∈ enclosed, token.run? ≠ frame.front.run?) ∧
      Apart (enclosed ++ frame.front :: frame.before) outer

namespace Frame.Apart

/-- Open runs stay apart when the tokens after them are replaced by tokens with the same runs. -/
theorem of_runs {other : List Token} (apart : Apart enclosed frames)
    (runs : ∀ token ∈ other, token.run? = none ∨ ∃ before ∈ enclosed, before.run? = token.run?) :
    Apart other frames := by
  induction frames generalizing enclosed other with
  | nil => trivial
  | cons frame outer induction =>
      obtain ⟨here, outside⟩ := apart
      constructor
      · by_cases unmarked : frame.front.run? = none
        · exact .inl unmarked
        · right
          intro token member same
          rcases runs token member with none | ⟨before, known, equal⟩
          · exact unmarked (same.symm.trans none)
          · exact here.resolve_left unmarked before known (equal.trans same)
      · apply induction outside
        intro token member
        rcases List.mem_append.mp member with new | earlier
        · apply (runs token new).imp_right
          rintro ⟨before, known, equal⟩
          exact ⟨before, List.mem_append_left _ known, equal⟩
        · exact .inr ⟨token, List.mem_append_right _ earlier, rfl⟩

theorem outside {inner outer : List Frame} (apart : Apart enclosed (inner ++ outer)) :
    Apart (enclosed ++ Frame.tokens inner) outer := by
  induction inner generalizing enclosed with
  | nil => simpa [Frame.tokens] using apart
  | cons frame inner induction =>
      have inside := induction apart.2
      rw [Frame.tokens_cons, List.append_assoc] at *
      exact inside

theorem cons {token : Token} (apart : Apart enclosed frames)
    (different : ∀ frame ∈ frames, frame.front.run? = none ∨ token.run? ≠ frame.front.run?) :
    Apart (token :: enclosed) frames := by
  induction frames generalizing enclosed with
  | nil => trivial
  | cons frame outer induction =>
      obtain ⟨here, outside⟩ := apart
      rw [List.forall_mem_cons] at different
      refine ⟨?_, induction outside different.2⟩
      rcases here with unmarked | apart
      · exact .inl unmarked
      · apply different.1.imp_right
        intro differs
        rw [List.forall_mem_cons]
        exact ⟨differs, apart⟩

end Frame.Apart

def State.Apart (state : State) : Prop :=
  Frame.Apart state.siblings state.frames

theorem Choice.Applies.token_differs (applies : choice.Applies setting state)
    (rules : setting.rules = Rule.ofMode) (fronted : state.Fronted setting)
    (isFront : choice.rule.front = true) (unpaired : choice.pairing = none) :
    ∀ frame ∈ state.frames, frame.front.run? = none ∨
      (choice.token setting state).run? ≠ frame.front.run? := by
  intro frame open_
  have member := applies.rule_mem_ofMode rules
  obtain ⟨name, text, token, opens⟩ := applies.token_front rules isFront
  obtain ⟨around, inside, opened⟩ := fronted frame open_
  obtain ⟨frontName, frontText, start, front, opensFront⟩ := opened.front_eq
  have frontRun := run?_delimiter opensFront start setting.place
  have run := run?_delimiter opens (setting.offset + state.position) setting.place
  rw [← front] at frontRun
  rw [← token] at run
  rcases frontRun with unmarked | ⟨frontOpener, frontLength⟩
  · exact .inl unmarked
  · right
    rcases run with unmarked | ⟨opener, length⟩
    · rw [unmarked, frontLength]
      simp
    · obtain ⟨crosses, closes⟩ := Rule.of_kind_verbatimOpener member opener
      have unresolved :=
        Frame.resolves_eq_none crosses (applies.pairing_eq.symm.trans unpaired) frame open_
      rw [opened.kind_eq, frontOpener] at unresolved
      intro same
      have sameArity : choice.lexeme.arity = frame.arity := by
        simpa [length, frontLength] using same
      rw [sameArity] at unresolved
      exact Rule.resolves_ne_none closes _ _ unresolved

namespace State

theorem Apart.advance (apart : state.Apart) (setting : Setting) (choice : Choice) :
    (state.advance setting choice).Apart := by
  have flushed : ∀ token ∈ (state.flush setting).siblings,
      token.run? = none ∨ ∃ before ∈ state.siblings, before.run? = token.run? := by
    unfold State.flush
    split
    · exact fun token member => .inr ⟨token, member, rfl⟩
    · rw [List.forall_mem_cons]
      exact ⟨.inl rfl, fun token member => .inr ⟨token, member, rfl⟩⟩
  have advanced := apart.of_runs flushed
  rw [State.Apart, advance_frames]
  exact advanced

theorem Apart.close {back : Token} (fold : setting.fold = true)
    (matched : Matched pairing.kind pairing.frame.front back)
    (frames : state.frames = pairing.abandoned ++ pairing.frame :: pairing.outer)
    (apart : state.Apart) : (state.close setting back pairing).Apart := by
  rw [State.Apart, frames] at apart
  have outside := apart.outside.2
  simp only [State.Apart, State.close, if_pos fold]
  apply outside.of_runs
  rw [List.forall_mem_cons]
  constructor
  · right
    exact ⟨pairing.frame.front, List.mem_append_right _ List.mem_cons_self,
      (matched.run?_eq _).symm⟩
  · intro token member
    exact .inr ⟨token, List.mem_append_right _ (List.mem_cons_of_mem _ member), rfl⟩

/-- What is known of the states of a scan that folds pairs: their fronts nest and are written as
fronts, and their open runs are apart. -/
structure RunsApart (setting : Setting) (state : State) : Prop where
  formed : state.Formed setting
  fronted : state.Fronted setting
  apart : state.Apart

theorem RunsApart.accept (rules : setting.rules = Rule.ofMode) (fold : setting.fold = true)
    (reads : setting.ReadsFormed) (applies : choice.Applies setting state)
    (runs : state.RunsApart setting) : (state.accept setting choice).RunsApart setting := by
  refine ⟨runs.formed.accept rules fold reads applies, runs.fronted.accept rules applies, ?_⟩
  have member := applies.rule_mem_ofMode rules
  have advanced := runs.apart.advance setting choice
  obtain ⟨current, nested, _⟩ := runs.formed
  rw [accept_eq, add]
  split
  · rename_i pairing paired
    apply advanced.close fold (applies.encloses rules nested paired).matched
    rw [advance_frames]
    exact (applies.pairs paired).frames_eq
  · rename_i unpaired
    split
    · rename_i isFront
      refine ⟨.inr (by simp), ?_⟩
      apply advanced.cons
      rw [advance_frames]
      exact applies.token_differs rules runs.fronted isFront unpaired
    · rename_i notFront
      obtain ⟨_, closesNothing⟩ :=
        (applies.unpaired unpaired).resolve_left fun front => notFront front.1
      have delimiter := (Rule.alone_kind member (by simpa using notFront) closesNothing).2
      have unmarked : (choice.token setting state).run? = none := by
        apply run?_eq_none
        · rw [choice.token_kind]
          intro opener
          rw [opener] at delimiter
          contradiction
        · rw [choice.token_kind]
          exact Rule.kind_ne_verbatim member
      apply advanced.of_runs
      rw [List.forall_mem_cons]
      exact ⟨.inl unmarked, fun token earlier => .inr ⟨token, earlier, rfl⟩⟩

end State

theorem runsApart_kept (rules : setting.rules = Rule.ofMode) (fold : setting.fold = true)
    (reads : setting.ReadsFormed) : Kept setting (State.RunsApart setting) where
  withEvents := fun _ _ ⟨formed, fronted, apart⟩ => ⟨formed, fronted, apart⟩
  skipChar := fun state ⟨formed, fronted, apart⟩ => by
    refine ⟨formed.skipChar, (fronted_kept rules).skipChar state fronted, ?_⟩
    unfold State.skipChar
    split <;> exact apart
  accept := fun _ _ applies runs => runs.accept rules fold reads applies

/-- No token inside a pair begins with a run of a length that no token after its front had. -/
theorem Pairing.children_run? {run : Option Nat} {siblings : List Token} (isRun : run ≠ none)
    (differ : ∀ token ∈ siblings ++ Frame.tokens pairing.abandoned, token.run? ≠ run) :
    ∀ child ∈ pairing.children siblings, child.run? ≠ run := by
  refine (KeptInText.of_plain ?_).coalesce_unwind differ
  intro token isText _
  rw [run?_eq_none (by simp [isText]) (by simp [isText])]
  exact isRun.symm

/-- A span that is folded keeps the text inside it. -/
theorem Choice.Applies.pair_verbatim (applies : choice.Applies setting state)
    (rules : setting.rules = Rule.ofMode) (runs : state.RunsApart setting)
    (paired : choice.pairing = some pairing) :
    (foldPair pairing.kind pairing.frame.front (pairing.children (state.flush setting).siblings)
      (choice.token setting state)).Verbatim := by
  intro isSpan
  rw [foldPair_kind] at isSpan
  obtain ⟨current, nested, siblings⟩ := runs.formed
  have encloses := applies.encloses rules nested paired
  have inside := encloses.pairMode_eq
  rw [isSpan] at inside
  cases inside
  have flushed : ∀ token ∈ (state.flush setting).siblings, Formed .verbatim token :=
    State.flush_formed siblings
  have formed := encloses.children_formed flushed
  obtain ⟨length, spans⟩ := (encloses.matched.delimited
    (pairing.children (state.flush setting).siblings)).spans isSpan
  refine ⟨length, spans, keepsText_of_apart rfl (coalesce_isChain _) ?_⟩
  have advanced := runs.apart.advance setting choice
  rw [State.Apart, State.advance_frames, (applies.pairs paired).frames_eq] at advanced
  have frontRun := (encloses.matched.run?_eq _).symm.trans spans.run?_eq
  -- no token after the front begins with a run of its length, so no child does
  have differ := advanced.outside.1.resolve_left (by simp [frontRun])
  rw [frontRun] at differ
  have runsInside := Pairing.children_run? (by simp) differ
  intro child member
  rcases (formed child member).belongsTo.verbatim with isText | isVerbatim
  · exact .inl ((formed child member).isPlainText isText)
  · obtain ⟨other, otherSpans⟩ := (formed child member).delimited.here.spans isVerbatim
    refine .inr ⟨other, ?_, otherSpans⟩
    rintro rfl
    exact runsInside child member otherSpans.run?_eq

theorem verbatim_gives (rules : setting.rules = Rule.ofMode) (fold : setting.fold = true)
    (formed : setting.ReadsFormed) (reads : setting.Reads (Everywhere Verbatim)) :
    Gives setting (State.RunsApart setting) (Everywhere Verbatim) := by
  apply Gives.everywhere rules reads (runsApart_kept rules fold formed)
  · exact fun _ isText => .of_kind_ne (by simp [isText])
  · intro state choice applies _
    apply Verbatim.of_kind_ne
    have member := applies.rule_mem_ofMode rules
    rw [Choice.token_kind]
    exact Rule.kind_ne_verbatim member
  · exact fun _ _ _ applies paired runs => applies.pair_verbatim rules runs paired

theorem read_verbatim (place : Text) (room : Nat) (mode : Mode) (beginsLine : Bool) (offset : Nat)
    (text : Text) :
    ∀ token ∈ (read Rule.ofMode true place room mode beginsLine offset text).tokens,
      token.Everywhere Verbatim := by
  apply read_induction (fun _ _ _ outcome => ∀ token ∈ outcome.tokens, token.Everywhere Verbatim)
  intro room mode beginsLine offset text reads
  have formed := readSetting_readsFormed place room mode beginsLine offset text
  apply (verbatim_gives rfl rfl formed reads).scanText
  exact ⟨.initial text, by simp [State.Fronted, State.initial], trivial⟩

end Scan

namespace Lex

open Token

/-- The text inside a verbatim span is not markup, other than spans between runs of another
length. -/
theorem lex_verbatim (options : Options) (source : Text) :
    (lex { options with fold := true } source).Everywhere fun token => token.kind = .verbatim →
      ∃ length, token.Spans length ∧ token.KeepsText length :=
  everywhere_iff.mpr ⟨Verbatim.of_kind_ne (by simp [lex, root, leaf]),
    Scan.read_verbatim options.place _ options.mode true 0 source⟩

theorem span_with_shorter_run :
    ∃ token ∈ (lex {} "\x60\x60 a \x60 b \x60\x60".toList).children, token.kind = .verbatim ∧
      ∃ length, token.Spans length ∧ token.KeepsText length := by
  have every := (everywhere_iff.mp (lex_verbatim {} "\x60\x60 a \x60 b \x60\x60".toList)).2
  exact ⟨_, .head _, rfl, (every _ (.head _)).here rfl⟩

/-- A span between shorter runs inside a span is a token of its own. -/
theorem span_in_span :
    ¬∀ (options : Options) (source : Text),
      (lex { options with fold := true } source).Everywhere fun token => token.kind = .verbatim →
        token.inner = [] ∧ token.children = [] ∨
          ∃ child, token.children = [child] ∧ child.kind = .text ∧ child.text = token.inner := by
  intro unread
  obtain ⟨span, member, isSpan, several⟩ :
      ∃ span ∈ (lex { fold := true } "\x60\x60 a \x60 b \x60 c \x60\x60".toList).children,
        span.kind = .verbatim ∧ span.children.length = 3 :=
    ⟨_, .head _, rfl, rfl⟩
  have every := (everywhere_iff.mp (unread {} "\x60\x60 a \x60 b \x60 c \x60\x60".toList)).2
  rcases (every span member).here isSpan with ⟨_, none⟩ | ⟨child, one, _⟩
  · simp [none] at several
  · simp [one] at several

end Lex

end PassageMarkup
