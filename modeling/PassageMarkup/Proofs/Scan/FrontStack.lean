import PassageMarkup.Proofs.Scan.Verbatim

/-!
# The stack of open fronts

An open front was opened in the mode inside the front around it, when the search for a front that
its rule closes had found none.  All that is known of the stack follows from this: what can stand
inside a string or a verbatim span, how runs differ in their length, and what stands between two
marks of one emphasis.
-/

namespace PassageMarkup

/-- Tells whether a kind is one of the backs of groups, macro calls and strings. -/
def Kind.isExpressionBack : Kind → Bool
  | groupingBack | stringCloser _ => true
  | _ => false

namespace Rule

variable {mode other : Mode} {rule front : Rule}

theorem innerMode_of_stringOpener {quote : Quote} (member : rule ∈ ofMode mode)
    (opener : rule.kind = .stringOpener quote) : rule.innerMode = some .string := by
  have table : ∀ rule ∈ ofMode mode, rule.kind = .stringOpener quote →
      rule.innerMode = some .string := by
    cases mode <;> cases quote <;> decide
  exact table rule member opener

theorem innerMode_of_verbatimOpener (member : rule ∈ ofMode mode)
    (opener : rule.kind = .verbatimOpener) : rule.innerMode = some .verbatim := by
  have table : ∀ rule ∈ ofMode mode, rule.kind = .verbatimOpener →
      rule.innerMode = some .verbatim := by
    cases mode <;> decide
  exact table rule member opener

theorem kind_of_mem_verbatim (member : rule ∈ ofMode .verbatim) : rule.kind = .verbatimOpener := by
  rw [List.mem_singleton.mp member]
  rfl

/-- A mark of an emphasis closes the emphasis, and only the barriers of emphasis stop its search. -/
theorem of_kind_emphasis {emphasis : Emphasis} (member : rule ∈ ofMode mode)
    (mark : rule.kind = .emphasis emphasis) :
    rule.cannotCross = emphasisBarriers ∧
      (.emphasis emphasis, .emphasis emphasis) ∈ rule.closes := by
  have table : ∀ rule ∈ ofMode mode, rule.kind = .emphasis emphasis →
      rule.cannotCross = emphasisBarriers ∧
        (.emphasis emphasis, .emphasis emphasis) ∈ rule.closes := by
    cases mode <;> cases emphasis <;> decide
  exact table rule member mark

theorem of_stopsAt {kind : Kind} {aka : Option Kind} (stops : rule.stopsAt kind aka = true) :
    kind ∈ rule.cannotCross ∨ ∃ also ∈ rule.cannotCross, aka = some also := by
  rw [stopsAt, Bool.or_eq_true, List.contains_iff_mem, Option.any_eq_true] at stops
  apply stops.imp_right
  rintro ⟨also, same, barrier⟩
  exact ⟨also, List.contains_iff_mem.mp barrier, same⟩

/-- The search of a back of a group or a string goes no further than the innermost front. -/
theorem closes_or_stopsAt (member : rule ∈ ofMode mode) (back : rule.kind.isExpressionBack = true)
    (frontMember : front ∈ ofMode other) (isFront : front.front = true)
    (inside : front.innerMode = some mode) :
    (∃ pair, (front.kind, pair) ∈ rule.closes) ∨ rule.stopsAt front.kind front.aka = true := by
  have table : ∀ rule ∈ ofMode mode, rule.kind.isExpressionBack = true → ∀ front ∈ ofMode other,
      front.front = true → front.innerMode = some mode →
        (∃ closed ∈ rule.closes, closed.1 = front.kind) ∨
          rule.stopsAt front.kind front.aka = true := by
    cases mode <;> cases other <;> decide
  apply (table rule member back front frontMember isFront inside).imp_left
  rintro ⟨⟨kind, pair⟩, closes, rfl⟩
  exact ⟨pair, closes⟩

end Rule

theorem Opens.arity_of_ne {kind : Kind} {arity : Nat} {name : Option Text} {text : Text}
    (opens : Opens kind arity name text) (notRun : kind ≠ .verbatimOpener) : arity = 0 := by
  cases opens <;> first | rfl | contradiction

theorem Opens.arity_eq {front back pair : Kind} {frontArity backArity : Nat}
    {frontName backName : Option Text} {frontText backText : Text}
    (opens : Opens front frontArity frontName frontText)
    (closes : Closes back front pair backArity backName backText)
    (top : back.isExpressionBack = true) : frontArity = backArity := by
  cases closes <;> first | contradiction | exact opens.arity_of_ne (by simp)

namespace Scan

variable {setting : Setting} {state : State} {choice : Choice} {pairing : Pairing} {place : Text}
  {outside inside : Mode} {frame : Frame} {inner outer frames : List Frame}

namespace Frame

/-- The mode inside open fronts: the innermost one decides it. -/
def modeInside (outside : Mode) (frames : List Frame) : Mode :=
  (frames.head?.bind fun frame => frame.rule.innerMode).getD outside

/-- Open fronts, of which each was opened in the mode inside those around it by a rule that closes
none of them. -/
inductive Stacked (place : Text) (outside : Mode) : List Frame → Prop where
  | nil : Stacked place outside []
  | cons {frame : Frame} {outer : List Frame} {inside : Mode} :
      Stacked place outside outer →
      frame.Opened place (modeInside outside outer) inside →
      pairing? frame.rule frame.arity outer = none →
      Stacked place outside (frame :: outer)

/-- A search that finds nothing stops before any front that it could close. -/
theorem exists_barrier {rule : Rule} {arity : Nat}
    (unpaired : pairing? rule arity (inner ++ frame :: outer) = none)
    (resolves : rule.resolves frame.front.kind frame.rule.aka frame.arity arity ≠ none) :
    ∃ barrier ∈ inner, rule.stopsAt barrier.front.kind barrier.rule.aka = true := by
  induction inner with
  | nil =>
      rw [List.nil_append, pairing?] at unpaired
      split at unpaired
      · contradiction
      · contradiction
  | cons first inner induction =>
      by_cases stops : rule.stopsAt first.front.kind first.rule.aka = true
      · exact ⟨first, List.mem_cons_self, stops⟩
      · rw [List.cons_append, pairing?] at unpaired
        split at unpaired
        · contradiction
        · rw [if_neg stops, Option.map_eq_none_iff] at unpaired
          obtain ⟨barrier, member, blocks⟩ := induction unpaired
          exact ⟨barrier, List.mem_cons_of_mem _ member, blocks⟩

theorem Opened.arity_of_ne {around : Mode} (opened : frame.Opened place around inside)
    (notRun : frame.front.kind ≠ .verbatimOpener) : frame.arity = 0 := by
  obtain ⟨name, text, start, _, opens⟩ := opened.front_eq
  rw [opened.kind_eq] at notRun
  exact opens.arity_of_ne notRun

theorem Opened.inside_string {quote : Quote} (opened : frame.Opened place outside inside)
    (opener : frame.front.kind = .stringOpener quote) : inside = .string := by
  have innerMode := opened.innerMode_eq
  rw [opened.kind_eq] at opener
  rw [Rule.innerMode_of_stringOpener opened.rule_mem opener] at innerMode
  exact (Option.some.inj innerMode).symm

theorem Opened.inside_verbatim (opened : frame.Opened place outside inside)
    (opener : frame.front.kind = .verbatimOpener) : inside = .verbatim := by
  have innerMode := opened.innerMode_eq
  rw [opened.kind_eq] at opener
  rw [Rule.innerMode_of_verbatimOpener opened.rule_mem opener] at innerMode
  exact (Option.some.inj innerMode).symm

/-- What holds of the open fronts of a scan that began in the mode `outside`. -/
structure StackLaws (outside : Mode) (frames : List Frame) : Prop where
  /-- Each front was opened by a rule of the mode inside the front directly around it. -/
  opened : ∀ inner frame outer, frames = inner ++ frame :: outer →
    frame.rule ∈ Rule.ofMode (modeInside outside outer) ∧ frame.rule.front = true ∧
      frame.front.kind = frame.rule.kind
  string : ∀ inner frame outer quote, frames = inner ++ frame :: outer →
    frame.front.kind = .stringOpener quote → inner = []
  verbatim : ∀ inner frame outer, frames = inner ++ frame :: outer →
    frame.front.kind = .verbatimOpener → ∀ other ∈ inner, other.front.kind = .verbatimOpener
  arities : ∀ inner frame between other outer,
    frames = inner ++ frame :: (between ++ other :: outer) →
      frame.front.kind = .verbatimOpener → other.front.kind = .verbatimOpener →
        frame.arity ≠ other.arity
  /-- Between two fronts of one emphasis there is one that a mark of emphasis cannot cross. -/
  emphasis : ∀ inner frame between other outer kind,
    frames = inner ++ frame :: (between ++ other :: outer) →
      frame.front.kind = .emphasis kind → other.front.kind = .emphasis kind →
        ∃ barrier ∈ between, barrier.front.kind ∈ Rule.emphasisBarriers ∨
          ∃ also ∈ Rule.emphasisBarriers, barrier.rule.aka = some also

namespace Stacked

theorem of_append (stacked : Stacked place outside (inner ++ outer)) :
    Stacked place outside outer := by
  induction inner with
  | nil => exact stacked
  | cons frame inner induction =>
      cases stacked with
      | cons deeper _ _ => exact induction deeper

theorem modeInside_eq (opened : frame.Opened place outside inside) {around : Mode} :
    modeInside around (frame :: outer) = inside := by
  rw [modeInside, List.head?_cons, Option.bind_some, opened.innerMode_eq]
  rfl

theorem inner_eq_nil {quote : Quote} (stacked : Stacked place outside (inner ++ frame :: outer))
    (opener : frame.front.kind = .stringOpener quote) : inner = [] := by
  rcases List.eq_nil_or_concat' inner with none | ⟨further, next, rfl⟩
  · exact none
  · rw [List.append_assoc, List.singleton_append] at stacked
    cases stacked.of_append with
    | cons deeper opened _ =>
        cases deeper with
        | cons _ string _ =>
            rw [modeInside_eq string, string.inside_string opener] at opened
            exact absurd opened.isFront (Rule.string_not_front opened.rule_mem)

theorem inner_verbatim (stacked : Stacked place outside (inner ++ frame :: outer))
    (opener : frame.front.kind = .verbatimOpener) :
    ∀ other ∈ inner, other.front.kind = .verbatimOpener := by
  induction inner with
  | nil => simp
  | cons first inner induction =>
      rw [List.cons_append] at stacked
      cases stacked with
      | cons deeper opened _ =>
          have others := induction deeper
          rw [List.forall_mem_cons]
          refine ⟨?_, others⟩
          -- the front around the first one is the given span or one inside it
          have around : ∃ next further, inner ++ frame :: outer = next :: further ∧
              next.front.kind = .verbatimOpener := by
            cases inner with
            | nil => exact ⟨frame, outer, rfl, opener⟩
            | cons next further => exact ⟨next, _, rfl, others next List.mem_cons_self⟩
          obtain ⟨next, further, same, span⟩ := around
          rw [same] at deeper opened
          cases deeper with
          | cons _ verbatim _ =>
              rw [modeInside_eq verbatim, verbatim.inside_verbatim span] at opened
              rw [opened.kind_eq]
              exact Rule.kind_of_mem_verbatim opened.rule_mem

theorem arity_ne {between : List Frame} {other : Frame}
    (stacked : Stacked place outside (frame :: (between ++ other :: outer)))
    (opener : frame.front.kind = .verbatimOpener)
    (otherOpener : other.front.kind = .verbatimOpener) : frame.arity ≠ other.arity := by
  intro same
  cases stacked with
  | cons deeper opened unpaired =>
      rw [opened.kind_eq] at opener
      obtain ⟨crosses, closes⟩ := Rule.of_kind_verbatimOpener opened.rule_mem opener
      rw [← otherOpener] at closes
      have unresolved := resolves_eq_none crosses unpaired other (by simp)
      rw [same] at unresolved
      exact Rule.resolves_ne_none closes _ _ unresolved

theorem arity_ne_of_mem (stacked : Stacked place outside (frame :: outer)) {other : Frame}
    (open_ : other ∈ outer) (opener : other.front.kind = .verbatimOpener) :
    other.arity ≠ frame.arity := by
  obtain ⟨between, further, rfl⟩ := List.append_of_mem open_
  have whole : Stacked place outside ((frame :: between) ++ other :: further) := stacked
  have inside := whole.inner_verbatim opener frame List.mem_cons_self
  exact (stacked.arity_ne inside opener).symm

theorem exists_emphasisBarrier {between : List Frame} {other : Frame} {kind : Emphasis}
    (stacked : Stacked place outside (frame :: (between ++ other :: outer)))
    (mark : frame.front.kind = .emphasis kind) (otherMark : other.front.kind = .emphasis kind) :
    ∃ barrier ∈ between, barrier.front.kind ∈ Rule.emphasisBarriers ∨
      ∃ also ∈ Rule.emphasisBarriers, barrier.rule.aka = some also := by
  cases stacked with
  | cons deeper opened unpaired =>
      cases deeper.of_append with
      | cons _ otherOpened _ =>
          have arity := opened.arity_of_ne (by simp [mark])
          have otherArity := otherOpened.arity_of_ne (by simp [otherMark])
          rw [opened.kind_eq] at mark
          obtain ⟨crosses, closes⟩ := Rule.of_kind_emphasis opened.rule_mem mark
          rw [← otherMark] at closes
          have resolves := Rule.resolves_ne_none closes other.rule.aka 0
          rw [arity] at unpaired
          nth_rewrite 1 [← otherArity] at resolves
          obtain ⟨barrier, member, stops⟩ := exists_barrier unpaired resolves
          have blocked := Rule.of_stopsAt stops
          rw [crosses] at blocked
          exact ⟨barrier, member, blocked⟩

theorem laws (stacked : Stacked place outside frames) : StackLaws outside frames := by
  constructor
  · rintro inner frame outer rfl
    cases stacked.of_append with
    | cons _ opened _ => exact ⟨opened.rule_mem, opened.isFront, opened.kind_eq⟩
  · rintro inner frame outer quote rfl opener
    exact stacked.inner_eq_nil opener
  · rintro inner frame outer rfl opener
    exact stacked.inner_verbatim opener
  · rintro inner frame between other outer rfl opener otherOpener
    exact stacked.of_append.arity_ne opener otherOpener
  · rintro inner frame between other outer kind rfl mark otherMark
    exact stacked.of_append.exists_emphasisBarrier mark otherMark

end Stacked

end Frame

def State.Stacked (setting : Setting) (state : State) : Prop :=
  Frame.Stacked setting.place setting.mode state.frames

theorem State.Stacked.accept (rules : setting.rules = Rule.ofMode)
    (applies : choice.Applies setting state) (stacked : state.Stacked setting) :
    (state.accept setting choice).Stacked setting := by
  rw [accept_eq, add]
  split
  · rename_i pairing paired
    unfold State.Stacked at stacked
    rw [(applies.pairs paired).frames_eq] at stacked
    have outside : Frame.Stacked setting.place setting.mode (pairing.frame :: pairing.outer) :=
      stacked.of_append
    cases outside with
    | cons outer _ _ => exact outer
  · rename_i unpaired
    split
    · rename_i isFront
      have member := applies.rule_mem_ofMode rules
      obtain ⟨inside, innerMode⟩ := Rule.front_innerMode member isFront
      obtain ⟨name, text, written, opens⟩ := applies.token_front rules isFront
      have unclosed := applies.pairing_eq.symm.trans unpaired
      rw [← advance_frames choice] at unclosed
      refine .cons ?_ ⟨?_, isFront, innerMode, name, text, _, written, opens⟩ unclosed
      · rw [advance_frames]
        exact stacked
      · rw [advance_frames]
        exact member
    · unfold State.Stacked
      rw [advance_frames]
      exact stacked

theorem stacked_kept (rules : setting.rules = Rule.ofMode) :
    Kept setting (State.Stacked setting) where
  withEvents := fun _ _ stacked => stacked
  skipChar := fun state stacked => by
    unfold State.skipChar
    split <;> exact stacked
  accept := fun _ _ applies stacked => stacked.accept rules applies

/-- A back of a group, a macro call or a string closes the innermost front. -/
theorem Choice.Applies.closes_top (applies : choice.Applies setting state)
    (rules : setting.rules = Rule.ofMode) (stacked : state.Stacked setting)
    (paired : choice.pairing = some pairing) (back : choice.rule.kind.isExpressionBack = true) :
    pairing.abandoned = [] := by
  have member := applies.rule_mem_ofMode rules
  have pairs := applies.pairs paired
  cases given : pairing.abandoned with
  | nil => rfl
  | cons first others =>
      -- the innermost front decides the mode in which the back is tried
      have frames := pairs.frames_eq
      rw [given, List.cons_append] at frames
      obtain ⟨unresolved, passes⟩ := pairs.passes first (by simp [given])
      have mode : state.mode setting = Frame.modeInside setting.mode state.frames := rfl
      unfold State.Stacked at stacked
      rw [frames] at stacked mode
      cases stacked with
      | cons _ opened _ =>
          rw [Frame.Stacked.modeInside_eq opened] at mode
          rw [mode] at member
          rw [opened.kind_eq] at unresolved passes
          rcases Rule.closes_or_stopsAt member back opened.rule_mem opened.isFront
            opened.innerMode_eq with ⟨pair, closes⟩ | stops
          · obtain ⟨name, text, start, _, opens⟩ := opened.front_eq
            obtain ⟨_, _, _, closesBack⟩ := applies.token_back rules closes
            rw [opens.arity_eq closesBack back] at unresolved
            exact absurd unresolved (Rule.resolves_ne_none closes _ _)
          · rw [stops] at passes
            contradiction

end Scan

namespace Reading

open Scan

variable {options : Options} {reading : Reading} {state : State}

/-- At every state of a reading the open fronts obey the laws of their stack.  So a back of a group,
a macro call or a string that closes a front closes the innermost one and gives up none. -/
theorem fronts_stacked (passes : reading.Passes options state) :
    Frame.StackLaws reading.mode state.frames ∧
      ∀ choice pairing, state.choice? (reading.setting options) = some choice →
        choice.pairing = some pairing → choice.rule.kind.isExpressionBack = true →
          pairing.abandoned = [] ∧ state.frames = pairing.frame :: pairing.outer := by
  have stacked : state.Stacked (reading.setting options) :=
    passes.kept (stacked_kept rfl) .nil
  refine ⟨stacked.laws, ?_⟩
  intro choice pairing chosen paired back
  have applies := State.choice?_applies chosen
  have none := applies.closes_top rfl stacked paired back
  have frames := (applies.pairs paired).frames_eq
  rw [none, List.nil_append] at frames
  exact ⟨none, frames⟩

theorem string_in_group_closed :
    ∃ state choice pairing,
      Passes {} ⟨.prose, true, 0, 0, "(x:('a'))".toList⟩ state ∧
        state.choice? (setting {} ⟨.prose, true, 0, 0, "(x:('a'))".toList⟩) =
          some choice ∧
        choice.pairing = some pairing ∧ choice.rule.kind.isExpressionBack = true ∧
        state.frames.map (·.front.kind) = [.stringOpener .single, .groupingFront, .macroFront] ∧
        Frame.StackLaws .prose state.frames ∧ pairing.abandoned = [] ∧
        state.frames = pairing.frame :: pairing.outer := by
  have passes : Passes {} ⟨.prose, true, 0, 0, "(x:('a'))".toList⟩ _ :=
    .step (.step (.step (.step .initial (by decide)) (by decide)) (by decide)) (by decide)
  have stacked := fronts_stacked passes
  obtain ⟨none, frames⟩ := stacked.2 _ _ rfl rfl rfl
  exact ⟨_, _, _, passes, rfl, rfl, rfl, rfl, stacked.1, none, frames⟩

end Reading

end PassageMarkup
