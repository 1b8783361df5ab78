import PassageMarkup.Proofs.Rule.Closer
import PassageMarkup.Proofs.Scan.Horizon
import PassageMarkup.Proofs.Scan.Progress

/-!
# Closers leave no trace

A rule is not tried where its closer is no longer ahead.  Its pattern would find nothing there, so
a scan with a table without closers makes the same decisions at every place and returns the same
tokens and events.
-/

namespace PassageMarkup

namespace Rule

/-- The same rule, tried at every place. -/
def withoutCloser (rule : Rule) : Rule :=
  { rule with closer := none }

theorem withoutCloser_of_front {mode : Mode} {rule : Rule} (member : rule ∈ ofMode mode)
    (isFront : rule.front = true) : rule.withoutCloser = rule := by
  have table : ∀ rule ∈ ofMode mode, rule.front = true → rule.closer = none := by
    cases mode <;> decide
  have noCloser := table rule member isFront
  cases rule
  simp only at noCloser
  rw [withoutCloser, noCloser]

/-- The rules of each mode, all tried at every place. -/
def ofModeWithoutClosers (mode : Mode) : List Rule :=
  (ofMode mode).map withoutCloser

/-- Where the closer of a rule is no longer ahead, the rule finds nothing. -/
theorem find?_eq_none_of_not_isAhead {mode : Mode} {rule : Rule} {closer : Closer} {text : Text}
    {position : Nat} (member : rule ∈ ofMode mode) (has : rule.closer = some closer)
    (gone : (Horizon.ofText text).isAhead closer position = false) :
    rule.pattern.find? (text.drop position) = none := by
  cases result : rule.pattern.find? (text.drop position) with
  | none => rfl
  | some found =>
      have ahead := Horizon.isAhead_iff.mpr (closer_occurs member has result)
      rw [ahead] at gone
      contradiction

end Rule

namespace Scan

variable {setting : Setting} {state : State} {text : Text}

def Setting.withoutClosers (setting : Setting) : Setting :=
  { setting with rules := Rule.ofModeWithoutClosers }

def Choice.withoutCloser (choice : Choice) : Choice :=
  { choice with rule := choice.rule.withoutCloser }

namespace State

theorem judge_withoutCloser {mode : Mode} {rule : Rule} (member : rule ∈ Rule.ofMode mode)
    (inside : state.Inside text) (horizon : setting.horizon = .ofText text) :
    state.judge setting.withoutClosers rule.withoutCloser = state.judge setting rule := by
  have lexeme : ∀ taken, state.judgeLexeme setting.withoutClosers rule.withoutCloser taken =
      state.judgeLexeme setting rule taken := by
    intro taken
    have search : ∀ frames,
        Frame.pairing? rule.withoutCloser taken.arity frames =
          Frame.pairing? rule taken.arity frames := by
      intro frames
      induction frames with
      | nil => rfl
      | cons frame outer induction =>
          rw [Frame.pairing?, Frame.pairing?, induction]
          rfl
    rw [judgeLexeme, judgeLexeme, search]
    rfl
  unfold judge
  by_cases ahead : rule.closer.all (setting.horizon.isAhead · state.position) = true
  · have admitted : state.admits setting.withoutClosers rule.withoutCloser =
        state.admits setting rule := by
      rw [admits, admits, ahead]
      rfl
    rw [admitted]
    simp only [lexeme]
    rfl
  · cases has : rule.closer with
    | none => simp [has] at ahead
    | some closer =>
        have nothing : rule.pattern.find? state.rest = none := by
          rw [inside.rest_eq]
          apply Rule.find?_eq_none_of_not_isAhead member has
          simpa [has, horizon] using ahead
        have alsoNothing : rule.withoutCloser.pattern.find? state.rest = none := nothing
        simp [nothing, alsoNothing]

theorem choose_withoutCloser {mode : Mode} {rules : List Rule}
    (known : ∀ rule ∈ rules, rule ∈ Rule.ofMode mode) (inside : state.Inside text)
    (horizon : setting.horizon = .ofText text) :
    state.choose setting.withoutClosers (rules.map Rule.withoutCloser) =
      ((state.choose setting rules).1, (state.choose setting rules).2.map Choice.withoutCloser) := by
  induction rules with
  | nil => rfl
  | cons rule rules induction =>
      rw [List.forall_mem_cons] at known
      rw [List.map_cons, choose, choose, judge_withoutCloser known.1 inside horizon]
      cases state.judge setting rule with
      | skip => exact induction known.2
      | refuse =>
          simp only [induction known.2]
          rfl
      | accept lexeme pairing => rfl

theorem accept_withoutCloser {choice : Choice} (rules : setting.rules = Rule.ofMode)
    (applies : choice.Applies setting state) :
    state.accept setting.withoutClosers choice.withoutCloser = state.accept setting choice := by
  have member := applies.rule_mem_ofMode rules
  have token : choice.withoutCloser.token setting.withoutClosers state =
      choice.token setting state := rfl
  have advanced : state.advance setting.withoutClosers choice.withoutCloser =
      state.advance setting choice := rfl
  rw [accept_eq, accept_eq, token, advanced]
  unfold add
  cases paired : choice.pairing with
  | some pairing =>
      have alsoPaired : choice.withoutCloser.pairing = some pairing := paired
      simp only [alsoPaired]
      rfl
  | none =>
      have alsoUnpaired : choice.withoutCloser.pairing = none := paired
      by_cases isFront : choice.rule.front = true
      · have same : choice.withoutCloser.rule = choice.rule :=
          Rule.withoutCloser_of_front member isFront
        simp only [alsoUnpaired, same]
        rfl
      · have alsoNotFront : ¬choice.withoutCloser.rule.front = true := isFront
        simp only [alsoUnpaired, if_neg isFront, if_neg alsoNotFront]

theorem step_withoutClosers (rules : setting.rules = Rule.ofMode)
    (horizon : setting.horizon = .ofText text) (inside : state.Inside text) :
    state.step setting.withoutClosers = state.step setting := by
  have chosen : state.choose setting.withoutClosers
      (setting.withoutClosers.rules (state.mode setting.withoutClosers)) =
        ((state.choose setting (setting.rules (state.mode setting))).1,
          (state.choice? setting).map Choice.withoutCloser) := by
    unfold choice?
    rw [rules]
    exact choose_withoutCloser (fun _ member => member) inside horizon
  have choice : state.choice? setting.withoutClosers =
      (state.choice? setting).map Choice.withoutCloser := congrArg Prod.snd chosen
  have noted : state.noted setting.withoutClosers = state.noted setting := by
    unfold State.noted
    rw [chosen]
    rfl
  rw [step_eq_noted, step_eq_noted, choice, noted]
  cases applied : state.choice? setting with
  | none => rfl
  | some choice => exact accept_withoutCloser rules ((choice?_applies applied).withEvents _)

theorem run_withoutClosers (rules : setting.rules = Rule.ofMode)
    (horizon : setting.horizon = .ofText text) (inside : state.Inside text) (bound : Nat) :
    state.run setting.withoutClosers bound = state.run setting bound := by
  apply inside_kept.stepwise.run_eq _ inside
  intro state inside _
  exact step_withoutClosers rules horizon inside

end State

theorem scanText_withoutClosers (rules : setting.rules = Rule.ofMode)
    (horizon : setting.horizon = .ofText text) :
    scanText setting.withoutClosers text = scanText setting text := by
  unfold scanText
  rw [State.run_withoutClosers rules horizon (.initial text)]
  rfl

/-- A table without closers reads every text in the same way. -/
theorem read_withoutClosers (fold : Bool) (place : Text) (room : Nat) (mode : Mode)
    (beginsLine : Bool) (offset : Nat) (text : Text) :
    read Rule.ofModeWithoutClosers fold place room mode beginsLine offset text =
      read Rule.ofMode fold place room mode beginsLine offset text := by
  induction room generalizing mode beginsLine offset text with
  | zero =>
      rw [read_eq, read_eq]
      exact @scanText_withoutClosers (readSetting Rule.ofMode ..) _ rfl rfl
  | succ room induction =>
      have inner : (fun innerMode => read Rule.ofModeWithoutClosers fold place room innerMode false) =
          fun innerMode => read Rule.ofMode fold place room innerMode false := by
        funext innerMode innerOffset innerText
        exact induction innerMode false innerOffset innerText
      have same : readSetting Rule.ofModeWithoutClosers fold place (room + 1) mode beginsLine
          offset text =
          (readSetting Rule.ofMode fold place (room + 1) mode beginsLine offset
            text).withoutClosers := by
        simp only [readSetting, Nat.add_sub_cancel, inner]
        rfl
      rw [read_eq, read_eq, same]
      exact scanText_withoutClosers rfl rfl

end Scan

namespace Lex

/-- The tree of a passage when the rules of a table are tried. -/
def lexWith (rules : Mode → List Rule) (options : Options) (source : Text) : Token :=
  root options.place source
    (Scan.read rules options.fold options.place options.maxDepth options.mode true 0 source).tokens

/-- A table without closers gives every passage the same tree: where a closer is no longer ahead,
the pattern of its rule finds nothing. -/
theorem lex_withoutClosers (options : Options) (source : Text) :
    lexWith Rule.ofModeWithoutClosers options source = lex options source ∧
      ∀ mode, ∀ rule ∈ Rule.ofMode mode, ∀ closer, rule.closer = some closer → ∀ position,
        (Horizon.ofText source).isAhead closer position = false →
          rule.pattern.find? (source.drop position) = none := by
  constructor
  · unfold lexWith
    rw [Scan.read_withoutClosers]
    rfl
  · intro mode rule member closer has position gone
    exact Rule.find?_eq_none_of_not_isAhead member has gone

theorem unended_comment_skipped :
    Rule.comment ∈ Rule.ofMode .prose ∧ Rule.comment.closer = some .commentEnd ∧
      (Horizon.ofText "-->a<!--b->".toList).isAhead .commentEnd 4 = false ∧
      Rule.comment.pattern.find? ("-->a<!--b->".toList.drop 4) = none := by
  have member : Rule.comment ∈ Rule.ofMode .prose := by simp [Rule.ofMode, Rule.prose]
  have gone : (Horizon.ofText "-->a<!--b->".toList).isAhead .commentEnd 4 = false := by decide
  exact ⟨member, rfl, gone,
    (lex_withoutClosers {} "-->a<!--b->".toList).2 .prose _ member .commentEnd rfl 4 gone⟩

end Lex

end PassageMarkup
