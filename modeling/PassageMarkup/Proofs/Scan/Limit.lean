import PassageMarkup.Proofs.Scan.Refusal
import PassageMarkup.Proofs.Scan.Safety

/-!
# The limit on nesting

The limit on nesting matters only where it is reached, with as many inner texts around and fronts
open as it allows.  A text has more characters than can nest in it, so a limit of its length is
never reached.  A reading in which the limit stopped nothing is the same under all higher limits.
-/

namespace PassageMarkup

open Scan

namespace Reading

variable {options : Options} {reading inner : Reading} {state : State} {event : Event}

/-- What reading a text gives. -/
def outcome (options : Options) (reading : Reading) : Outcome :=
  read Rule.ofMode options.fold options.place (options.maxDepth - reading.depth) reading.mode
    reading.beginsLine reading.offset reading.text

/-- At the limit a text is not read, or a front in it is not opened. -/
inductive AtLimit (options : Options) (reading : Reading) : Event → Prop where
  | unread :
      reading.text ≠ [] →
      options.maxDepth ≤ reading.depth →
      AtLimit options reading (.unread reading.offset)
  | refused {state : State} {kind : Kind} :
      reading.Passes options state →
      state.rest ≠ [] →
      options.maxDepth ≤ reading.depth + state.frames.length →
      AtLimit options reading (.refused kind (reading.offset + state.position))

theorem Passes.run (passes : reading.Passes options state) (bound : Nat) :
    reading.Passes options (state.run (reading.setting options) bound) := by
  have stepwise : Stepwise (reading.setting options) (reading.Passes options) :=
    fun _ passes ahead => passes.step ahead
  exact stepwise.run passes

/-- At the limit on nesting an inner text is not read; otherwise its events are those of reading
it. -/
theorem mem_readInner_events {rule : Rule} {start : Nat} {text : Text}
    (noted : event ∈ (readInner (reading.setting options) rule start text).events) :
    event = .unread start ∧ options.maxDepth ≤ reading.depth + 1 ∨
      event ∈ (outcome options
        ⟨rule.innerMode.getD .prose, false, reading.depth + 1, start, text⟩).events := by
  unfold readInner at noted
  split at noted
  · rename_i read present
    right
    rw [(readSetting_readInner present).2] at noted
    rw [outcome, ← Nat.sub_sub]
    exact noted
  · rename_i absent
    left
    refine ⟨by simpa using noted, ?_⟩
    by_contra more
    have room : ¬options.maxDepth - reading.depth ≤ 1 := by omega
    rw [setting, readSetting, if_neg room] at absent
    contradiction

theorem Passes.of_limit (limit : event.isLimit = true) (passes : reading.Passes options state)
    (noted : event ∈ state.events) :
    reading.AtLimit options event ∨
      ∃ inner, reading.Meets options inner ∧
        (inner.AtLimit options event ∨ event ∈ (inner.outcome options).events) := by
  induction passes with
  | initial => contradiction
  | @step state passes ahead induction =>
      rcases (State.mem_step_events_iff limit).mp noted with
        before | ⟨kind, refused, rfl⟩ | ⟨choice, chosen, span, marked, _, inner⟩
      · exact induction before
      · left
        obtain ⟨_, rule, _, _, rfl, judged, _⟩ := State.exists_of_refused refused
        have full : options.maxDepth - reading.depth ≤ state.frames.length :=
          (State.judge_refuse judged).2.1
        exact .refused passes ahead (by omega)
      · right
        refine ⟨_, .intro passes chosen marked, ?_⟩
        rcases mem_readInner_events inner with ⟨rfl, full⟩ | deeper
        · left
          have positive :=
            ((State.choice?_applies chosen).inner_length rfl passes.inside marked).1
          exact .unread (List.length_pos_iff.mp positive) full
        · exact .inr deeper

/-- Events of the limit come from where it is reached, at any depth.  The recursion is on the length
of the text. -/
theorem limit_reached (options : Options) (reading : Reading) (limit : event.isLimit = true)
    (noted : event ∈ (reading.outcome options).events) :
    ∃ inner, Relation.ReflTransGen (Meets options) reading inner ∧ inner.AtLimit options event := by
  have notDemoted : ∀ frame : Frame, frame.demotion ≠ event := by
    rintro _ rfl
    contradiction
  have final : event ∈ ((State.initial reading.text).run (reading.setting options)
      reading.text.length).events := by
    rw [outcome, read_eq, scanText, State.finish] at noted
    simp only [State.flush_events, List.mem_append, List.mem_map, notDemoted, and_false,
      exists_false, false_or] at noted
    exact noted
  rcases (Passes.initial.run _).of_limit limit final with here | ⟨inner, meets, here | deeper⟩
  · exact ⟨reading, .refl, here⟩
  · exact ⟨inner, .single meets, here⟩
  · obtain ⟨last, reached, atLimit⟩ := limit_reached options inner limit deeper
    exact ⟨last, .head meets reached, atLimit⟩
termination_by reading.text.length
decreasing_by exact (meets.bounds (Nat.le_max_left _ _) (Nat.le_max_right _ _)).1

/-- Each inner text costs the texts inside it a character. -/
theorem depth_add_length_le (reached : Relation.ReflTransGen (Meets options) reading inner) :
    inner.depth + inner.text.length ≤ reading.depth + reading.text.length := by
  induction reached with
  | refl => exact Nat.le_refl _
  | @tail outer inner _ meets induction =>
      have shorter := (meets.bounds (Nat.le_max_left _ _) (Nat.le_max_right _ _)).1
      have deeper : inner.depth = outer.depth + 1 := by
        cases meets
        rfl
      omega

/-- A limit is reached only in texts that are longer than what it leaves of them. -/
theorem AtLimit.lt_depth_add_length (atLimit : reading.AtLimit options event) :
    options.maxDepth < reading.depth + reading.text.length := by
  cases atLimit with
  | unread nonempty full =>
      have positive := List.length_pos_iff.mpr nonempty
      omega
  | refused passes ahead full =>
      have fewer := passes.inside.frames_lt ahead
      omega

end Reading

namespace Scan

variable {rules : Mode → List Rule} {setting : Setting} {state : State} {choice : Choice}
  {room : Nat} {reader : Option (Mode → Nat → Text → Outcome)}

/-- The limit on nesting stopped nothing in a reading. -/
def Outcome.Unlimited (outcome : Outcome) : Prop :=
  ∀ event ∈ outcome.events, event.isLimit = false

def State.Unlimited (state : State) : Prop :=
  ∀ event ∈ state.events, event.isLimit = false

/-- Inner texts in which the limit stops nothing are read in the same way under other limits. -/
def Setting.ReadsOn (setting : Setting) (room : Nat)
    (reader : Option (Mode → Nat → Text → Outcome)) : Prop :=
  ∀ rule start inner, (Scan.readInner setting rule start inner).Unlimited →
    Scan.readInner (setting.withLimits room reader) rule start inner =
      Scan.readInner setting rule start inner

namespace State

/-- Where the limit has stopped nothing after a step, it had stopped nothing before, and it stops
nothing at the place of the step or in the inner text of what is chosen. -/
theorem Unlimited.of_step (unlimited : (state.step setting).Unlimited) :
    state.Unlimited ∧ (state.choose setting (setting.rules (state.mode setting))).1 = [] ∧
      ∀ choice, state.choice? setting = some choice → ∀ span, choice.lexeme.inner = some span →
        setting.fold = true →
          (Scan.readInner setting choice.rule (setting.offset + state.position + span.start)
            ((choice.consumed state).slice span)).Unlimited := by
  have absent : ∀ event, event.isLimit = true → event ∉ (state.step setting).events := by
    intro event limit noted
    rw [unlimited event noted] at limit
    contradiction
  refine ⟨?_, ?_, ?_⟩
  · intro event noted
    by_contra limit
    rw [Bool.not_eq_false] at limit
    exact absent event limit ((mem_step_events_iff limit).mpr (.inl noted))
  · rw [List.eq_nil_iff_forall_not_mem]
    intro kind refused
    exact absent (.refused kind (setting.offset + state.position)) rfl
      ((mem_step_events_iff rfl).mpr (.inr (.inl ⟨kind, refused, rfl⟩)))
  · intro choice chosen span marked fold event noted
    by_contra limit
    rw [Bool.not_eq_false] at limit
    exact absent event limit
      ((mem_step_events_iff limit).mpr (.inr (.inr ⟨choice, chosen, span, marked, fold, noted⟩)))

theorem Unlimited.of_run {bound : Nat} (unlimited : (state.run setting bound).Unlimited) :
    state.Unlimited := by
  induction bound generalizing state with
  | zero => exact unlimited
  | succ bound induction =>
      unfold run at unlimited
      split at unlimited
      · exact unlimited
      · exact (induction unlimited).of_step.1

theorem Unlimited.of_finish (unlimited : (state.finish setting).Unlimited) : state.Unlimited := by
  intro event noted
  apply unlimited event
  rw [finish, flush_events]
  exact List.mem_append_right _ noted

theorem run_inert (more : setting.room ≤ room) (readsOn : setting.ReadsOn room reader)
    {bound : Nat} (unlimited : (state.run setting bound).Unlimited) :
    state.run (setting.withLimits room reader) bound = state.run setting bound := by
  induction bound generalizing state with
  | zero => rfl
  | succ bound induction =>
      rw [run] at unlimited
      rw [run, run]
      by_cases finished : state.rest.isEmpty = true
      · rw [if_pos finished, if_pos finished]
      · rw [if_neg finished] at unlimited
        obtain ⟨_, spared, inner⟩ := unlimited.of_run.of_step
        have same : state.step (setting.withLimits room reader) = state.step setting := by
          apply step_withLimits (by omega) spared
          intro choice chosen span marked fold
          exact readsOn _ _ _ (inner choice chosen span marked fold)
        rw [if_neg finished, if_neg finished, same]
        exact induction unlimited

end State

/-- A reading in which the limit stops nothing is the same under a higher limit.  The recursion is on
the limit. -/
theorem read_inert {fold : Bool} {place : Text} {room more : Nat} {mode : Mode}
    {beginsLine : Bool} {offset : Nat} {text : Text} (higher : room ≤ more)
    (unlimited : (read rules fold place room mode beginsLine offset text).Unlimited) :
    read rules fold place more mode beginsLine offset text =
      read rules fold place room mode beginsLine offset text := by
  rw [read_eq, scanText] at unlimited
  have readsOn : (readSetting rules fold place room mode beginsLine offset text).ReadsOn more
      (readSetting rules fold place more mode beginsLine offset text).readInner := by
    intro rule start inner read
    cases present : (readSetting rules fold place room mode beginsLine offset text).readInner with
    | none =>
        rw [readInner, present] at read
        have noted := read (.unread start) List.mem_cons_self
        contradiction
    | some reader =>
        obtain ⟨nested, rfl⟩ := readSetting_readInner present
        rw [readInner, present] at read
        have alsoNested : ¬more ≤ 1 := by omega
        rw [readInner, readInner, present]
        simp only [Setting.withLimits, readSetting, if_neg alsoNested]
        exact read_inert (by omega) read
  have same := State.run_inert higher readsOn (State.Unlimited.of_finish unlimited)
  rw [read_eq, read_eq, scanText, scanText, ← same]
  rfl
termination_by room

end Scan

namespace Event

variable {event : Event}

theorem exists_warning (fold : Bool) (maximum : Nat) (limit : event.isLimit = true) :
    ∃ message, record? fold maximum event = some ⟨.warn, message⟩ := by
  cases event with
  | refused => exact ⟨_, rfl⟩
  | unread => exact ⟨_, rfl⟩
  | opened => contradiction
  | demoted => contradiction
  | closed => contradiction

theorem level_ne_warn {fold : Bool} {maximum : Nat} {entry : Record}
    (notLimit : event.isLimit = false) (recorded : record? fold maximum event = some entry) :
    entry.level ≠ .warn := by
  cases event with
  | opened => contradiction
  | refused => contradiction
  | unread => contradiction
  | demoted =>
      cases recorded
      simp
  | closed =>
      cases fold
      · contradiction
      · cases recorded
        simp

end Event

namespace Lex

/-- Lexing a passage logs no warning. -/
def Unwarned (options : Options) (source : Text) : Prop :=
  ∀ entry ∈ log options source, entry.level ≠ .warn

theorem unwarned_iff {options : Options} {source : Text} :
    Unwarned options source ↔ (readAt options 0 0 true source).Unlimited := by
  constructor
  · intro unwarned event noted
    by_contra limit
    rw [Bool.not_eq_false] at limit
    obtain ⟨message, recorded⟩ := Event.exists_warning options.fold options.maxDepth limit
    refine unwarned ⟨.warn, message⟩ ?_ rfl
    simp only [log, List.cons_append, List.mem_cons, List.mem_append, List.mem_filterMap,
      List.mem_reverse]
    exact .inr (.inl ⟨event, noted, recorded⟩)
  · intro unlimited entry logged
    simp only [log, List.cons_append, List.mem_cons, List.mem_append, List.mem_filterMap,
      List.mem_reverse, List.not_mem_nil, or_false] at logged
    rcases logged with rfl | ⟨event, noted, recorded⟩ | rfl
    · simp [beginRecord]
    · exact Event.level_ne_warn (unlimited event noted) recorded
    · simp [endRecord]

/-- The limit on nesting plays no part until it stops something.  A passage that is lexed without a
warning has the same tree under every higher limit, again without a warning, and with a limit of its
length or more no passage is warned of. -/
theorem limit_inert (options : Options) (source : Text) :
    (Unwarned options source → ∀ limit, options.maxDepth ≤ limit →
        lex { options with maxDepth := limit } source = lex options source ∧
          Unwarned { options with maxDepth := limit } source) ∧
      (source.length ≤ options.maxDepth → Unwarned options source) := by
  constructor
  · intro unwarned limit higher
    rw [unwarned_iff] at unwarned ⊢
    have same : readAt { options with maxDepth := limit } 0 0 true source =
        readAt options 0 0 true source :=
      Scan.read_inert (Nat.sub_le_sub_right higher 0) unwarned
    rw [lex, lex, tokenize, tokenize, same]
    exact ⟨rfl, unwarned⟩
  · intro enough
    rw [unwarned_iff]
    intro event noted
    by_contra limit
    rw [Bool.not_eq_false] at limit
    obtain ⟨inner, reached, atLimit⟩ :=
      Reading.limit_reached options ⟨options.mode, true, 0, 0, source⟩ limit noted
    have bounded := Reading.depth_add_length_le reached
    have exceeded := atLimit.lt_depth_add_length
    simp only at bounded
    omega

theorem emphasis_in_link_in_heading_inert :
    ¬Unwarned { maxDepth := 2 } "# [[*a*]]".toList ∧
      Unwarned { maxDepth := 3 } "# [[*a*]]".toList ∧
      (lex { maxDepth := 128 } "# [[*a*]]".toList = lex { maxDepth := 3 } "# [[*a*]]".toList ∧
        Unwarned { maxDepth := 128 } "# [[*a*]]".toList) ∧
      "# [[*a*]]".toList.length ≤ 9 ∧ Unwarned { maxDepth := 9 } "# [[*a*]]".toList := by
  have warned : ¬Unwarned { maxDepth := 2 } "# [[*a*]]".toList := by
    unfold Unwarned
    decide +kernel
  have unwarned : Unwarned { maxDepth := 3 } "# [[*a*]]".toList := by
    unfold Unwarned
    decide +kernel
  have enough : "# [[*a*]]".toList.length ≤ 9 := by decide
  exact ⟨warned, unwarned, (limit_inert { maxDepth := 3 } _).1 unwarned 128 (by decide), enough,
    (limit_inert { maxDepth := 9 } _).2 enough⟩

end Lex

end PassageMarkup
