import PassageMarkup.Proofs.Scan.Limit
import PassageMarkup.Proofs.Scan.Nodes
import PassageMarkup.Proofs.Scan.Sightings

/-!
# The scan by indices

The scan by indices makes the same steps as the scan by frames, and never reads an index that is out
of range.  One step keeps the relation between their states: the nodes and the stack represent the
frames, and all that is known of the closers is true.
-/

namespace PassageMarkup

namespace Scan

/-- A verdict with the partner of its pairing. -/
def Verdict.trial : Verdict → Trial
  | .skip => .skip
  | .refuse => .refuse
  | .accept lexeme pairing => .accept lexeme (pairing.map Pairing.partner)

def Choice.taking (choice : Choice) : Taking :=
  ⟨choice.rule, choice.lexeme, choice.pairing.map Pairing.partner⟩

@[simp] theorem Choice.taking_rule (choice : Choice) : choice.taking.rule = choice.rule :=
  rfl

@[simp] theorem Choice.taking_partner (choice : Choice) :
    choice.taking.partner = choice.pairing.map Pairing.partner :=
  rfl

namespace Indexed

variable {setting : Setting} {indexed : Indexed} {state : State} {text : Text} {rule : Rule}
  {lexeme : Lexeme} {choice : Choice}

/-- A state by indices and a state by frames are the same place of a scan. -/
structure Views (text : Text) (indexed : Indexed) (state : State) : Prop where
  rest_eq : indexed.rest = state.rest
  position_eq : indexed.position = state.position
  pending_eq : indexed.pending = state.pending
  events_eq : indexed.events = state.events
  represents : Represents 0 indexed.nodes indexed.stack state.frames state.siblings
  reached : indexed.known.Reached text indexed.position

namespace Views

theorem initial (text : Text) : Views text (.initial text) (.initial text) :=
  ⟨rfl, rfl, rfl, rfl, .nil rfl, .start⟩

theorem mode?_eq (views : Views text indexed state) :
    indexed.mode? setting = some (state.mode setting) := by
  unfold mode? State.mode
  rcases views.represents.innermost with ⟨last, head⟩ | ⟨index, frame, last, head, here⟩
  · rw [last, head]
    rfl
  · rw [last, head]
    simp only [here, Option.map_some, Frame.node_rule, Option.bind_some]

theorem preceding_eq (views : Views text indexed state) :
    indexed.preceding setting = state.preceding setting := by
  have newest : indexed.nodes.getLast?.map Node.token =
      (state.siblings ++ Frame.tokens state.frames).head? := by
    rw [← List.getLast?_map, views.represents.map_token, List.getLast?_reverse]
  unfold preceding State.preceding
  cases last : indexed.nodes.getLast? with
  | none =>
      rw [last, Option.map_none, eq_comm, List.head?_eq_none_iff, List.append_eq_nil_iff] at newest
      have noFrames : state.frames = [] := by
        cases frames : state.frames with
        | nil => rfl
        | cons frame outer => simp [frames] at newest
      rw [newest.1, noFrames]
  | some node =>
      rw [last, Option.map_some] at newest
      cases siblings : state.siblings with
      | cons sibling siblings =>
          simp only [siblings, List.cons_append, List.head?_cons, Option.some.injEq] at newest
          simp only [newest]
      | nil =>
          cases frames : state.frames with
          | nil => simp [siblings, frames, Frame.tokens] at newest
          | cons frame outer =>
              simp only [siblings, frames, Frame.tokens_cons, List.nil_append, List.cons_append,
                List.head?_cons, Option.some.injEq] at newest
              simp only [newest]

theorem lookAhead_eq (views : Views text indexed state) (inside : state.Inside text)
    (horizon : setting.horizon = .ofText text) (rule : Rule) :
    ∃ known, indexed.lookAhead rule =
        (rule.closer.all fun closer => setting.horizon.isAhead closer state.position, known) ∧
      Views text { indexed with known } state := by
  unfold lookAhead
  cases rule.closer with
  | none => exact ⟨indexed.known, rfl, views⟩
  | some closer =>
      have ahead : indexed.rest = text.drop indexed.position := by
        rw [views.rest_eq, views.position_eq, inside.rest_eq]
      have found := views.reached.lookUp_iff closer
      rw [← Horizon.isAhead_iff, ← Bool.eq_iff_iff] at found
      refine ⟨(indexed.known.lookUp closer indexed.position indexed.rest).2, ?_,
        { views with reached := ?_ }⟩
      · rw [Option.all_some, horizon, ← views.position_eq, ← found, ahead]
      · rw [ahead]
        exact views.reached.lookUp closer

theorem partner?_eq (views : Views text indexed state) (rule : Rule) (lexeme : Lexeme) :
    indexed.partner? rule lexeme =
      some ((Frame.pairing? rule lexeme.arity state.frames).map Pairing.partner) := by
  unfold partner?
  split
  · rename_i closesNothing
    rw [Frame.pairing?_of_closes_eq_nil (List.isEmpty_iff.mp closesNothing)]
    rfl
  · have found := views.represents.partner?_eq rule lexeme.arity []
    rw [List.append_nil] at found
    exact found

theorem judgeLexeme_eq (views : Views text indexed state) (rule : Rule) (lexeme : Lexeme) :
    indexed.judgeLexeme setting rule lexeme
        ((Frame.pairing? rule lexeme.arity state.frames).map Pairing.partner) =
      (state.judgeLexeme setting rule lexeme).trial := by
  unfold State.judgeLexeme
  cases Frame.pairing? rule lexeme.arity state.frames with
  | some pairing => rfl
  | none =>
      rw [Option.map_none, judgeLexeme, views.represents.length_stack]
      -- Whether a rule may stand by itself is asked in another order, so all cases are compared.
      cases rule.front <;> cases rule.closes.isEmpty <;>
        by_cases full : setting.room ≤ state.frames.length <;> simp [full, Verdict.trial]

theorem attempt?_eq (views : Views text indexed state) (inside : state.Inside text)
    (horizon : setting.horizon = .ofText text) (rule : Rule) :
    ∃ known, indexed.attempt? setting rule = some ((state.judge setting rule).trial, known) ∧
      Views text { indexed with known } state := by
  obtain ⟨known, looked, after⟩ := views.lookAhead_eq inside horizon rule
  have fits : indexed.fits setting rule =
      ((!rule.beginsLine || (state.preceding setting).beginsLine) &&
        (!rule.cannotFollowText || state.pending.isEmpty)) := by
    rw [fits, views.preceding_eq, views.pending_eq]
  unfold attempt? State.judge State.admits
  rw [← fits, looked]
  cases indexed.fits setting rule with
  | false => exact ⟨indexed.known, rfl, views⟩
  | true =>
      refine ⟨known, ?_, after⟩
      cases rule.closer.all fun closer => setting.horizon.isAhead closer state.position with
      | false => rfl
      | true =>
          rw [views.rest_eq]
          cases rule.pattern.find? state.rest with
          | none => rfl
          | some found =>
              simp only [if_true, Bool.true_and]
              split
              · rfl
              · rw [views.partner?_eq, Option.map_some, views.judgeLexeme_eq]

theorem choose?_eq (views : Views text indexed state) (inside : state.Inside text)
    (horizon : setting.horizon = .ofText text) (rules : List Rule) :
    ∃ known, indexed.choose? setting rules =
        some ((state.choose setting rules).1,
          (state.choose setting rules).2.map Choice.taking, known) ∧
      Views text { indexed with known } state := by
  induction rules generalizing indexed with
  | nil => exact ⟨indexed.known, rfl, views⟩
  | cons rule rules induction =>
      obtain ⟨known, tried, after⟩ := views.attempt?_eq inside horizon rule
      obtain ⟨later, chosen, last⟩ := induction after
      rw [choose?, State.choose, tried]
      cases state.judge setting rule with
      | skip => exact ⟨later, chosen, last⟩
      | refuse =>
          refine ⟨later, ?_, last⟩
          simp only [Verdict.trial, chosen, Option.map_some]
      | accept lexeme pairing => exact ⟨known, rfl, after⟩

theorem prepare?_eq (views : Views text indexed state) (inside : state.Inside text)
    (horizon : setting.horizon = .ofText text) :
    ∃ noted, indexed.prepare? setting =
        some (noted, (state.choice? setting).map Choice.taking) ∧
      Views text noted (state.noted setting) := by
  obtain ⟨known, chosen, after⟩ :=
    views.choose?_eq inside horizon (setting.rules (state.mode setting))
  refine ⟨indexed.note setting (state.choose setting (setting.rules (state.mode setting))).1 known,
    ?_, { after with events_eq := ?_ }⟩
  · rw [prepare?, views.mode?_eq]
    simp only [Option.bind_eq_bind, Option.bind_some, chosen]
    rfl
  · rw [note, views.position_eq, views.events_eq]
    rfl

theorem flush (views : Views text indexed state) (setting : Setting) :
    Views text (indexed.flush setting) (state.flush setting) := by
  obtain ⟨rest, position, pending, nodes, stack, known, events⟩ := indexed
  obtain ⟨rfl, rfl, rfl, rfl, represents, reached⟩ := views
  unfold Indexed.flush State.flush
  split
  · exact ⟨rfl, rfl, rfl, rfl, represents, reached⟩
  · exact ⟨rfl, rfl, rfl, rfl, represents.concat _, reached⟩

theorem skipChar (views : Views text indexed state) :
    Views text indexed.skipChar state.skipChar := by
  obtain ⟨_, _, _, siblings, frames, _⟩ := state
  obtain ⟨rest, position, pending, nodes, stack, known, events⟩ := indexed
  obtain ⟨rfl, rfl, rfl, rfl, represents, reached⟩ := views
  cases rest with
  | nil => exact ⟨rfl, rfl, rfl, rfl, represents, reached⟩
  | cons c rest => exact ⟨rfl, rfl, rfl, rfl, represents, reached.move (Nat.le_succ _)⟩

end Views

/-- Folding a pair does not end early, and leaves the fronts around the pair. -/
theorem fold?_eq {older : List Node} {back : Node} {pairing : Pairing} {siblings : List Token}
    (represents : Represents 0 older indexed.stack
      (pairing.abandoned ++ pairing.frame :: pairing.outer) siblings)
    (newest : indexed.nodes = older ++ [back]) :
    ∃ nodes stack,
      indexed.fold? pairing.partner =
          some (.folded
            { indexed with
              nodes, stack
              events :=
                .closed pairing.frame.front.kind pairing.frame.front.start back.token.kind
                    back.token.start pairing.kind ::
                  pairing.abandoned.map Frame.demotion ++ indexed.events }) ∧
        Represents 0 nodes stack pairing.outer
          (foldPair pairing.kind pairing.frame.front (pairing.children siblings) back.token ::
            pairing.frame.before) := by
  obtain ⟨before, after, outside, inside, whole, index, kept, abandoned, around, within⟩ :=
    represents.split_at_place
  have taken : older.take (before.length + 1) = before ++ [pairing.frame.node] := by
    rw [whole]
    simp [List.take_append]
  have between : older.drop (before.length + 1) = after := by
    rw [whole]
    simp [List.drop_append]
  have enough : ¬older.length < before.length + 1 := by
    rw [whole, List.length_append, List.length_cons]
    omega
  obtain ⟨children, demotions⟩ := within.inPair_eq [] (by simp)
  rw [List.append_nil] at children demotions
  refine ⟨before ++ [⟨foldPair pairing.kind pairing.frame.front (pairing.children siblings)
    back.token, none, 0⟩], outside, ?_, around.concat _⟩
  unfold fold?
  simp only [index, newest, List.getLast?_concat, List.dropLast_concat, if_neg enough, kept,
    abandoned, taken, between, children, demotions, Frame.node_token, List.reverse_reverse]
  rfl

theorem closeFlat?_eq {older : List Node} {back : Node} {pairing : Pairing} {siblings : List Token}
    (represents : Represents 0 older indexed.stack
      (pairing.abandoned ++ pairing.frame :: pairing.outer) siblings)
    (newest : indexed.nodes = older ++ [back]) :
    ∃ nodes stack,
      indexed.closeFlat? pairing.partner =
          some
            { indexed with
              nodes, stack
              events :=
                .closed pairing.frame.front.kind pairing.frame.front.start back.token.kind
                    back.token.start pairing.kind ::
                  pairing.abandoned.map Frame.demotion ++ indexed.events } ∧
        Represents 0 nodes stack pairing.outer
          (back.token :: Frame.unwind siblings pairing.abandoned ++
            pairing.frame.front :: pairing.frame.before) := by
  obtain ⟨before, after, outside, inside, whole, index, kept, abandoned, around, within⟩ :=
    represents.split_at_place
  have front : indexed.nodes[before.length]? = some pairing.frame.node := by
    rw [newest, whole]
    simp
  obtain ⟨given, _, tokens, run⟩ := within.foldlM_demote?_eq
    (before ++ [pairing.frame.node]) [back] (by simp) { indexed with stack := outside }
    (by simp [newest, whole])
  refine ⟨before ++ [pairing.frame.node] ++ given ++ [back], outside, ?_, ?_⟩
  · rw [newest] at run
    unfold closeFlat?
    rw [index, kept, abandoned]
    simp only [Option.bind_eq_bind, Option.bind_some, front]
    rw [newest, List.getLast?_concat]
    simp only [Option.bind_some, run]
    rfl
  · have represented := around.append ([pairing.frame.node] ++ given ++ [back])
    simp only [← List.append_assoc] at represented ⊢
    simpa [tokens] using represented

namespace Views

theorem made_eq (views : Views text indexed state) (choice : Choice) :
    indexed.made setting choice.taking =
      makeToken setting choice.rule choice.lexeme (setting.offset + state.position)
        (state.rest.take choice.lexeme.length) := by
  rw [made, views.position_eq, views.rest_eq]
  rfl

/-- The token that is taken is the newest node, after all others of the state past it. -/
theorem push (views : Views text indexed state) (setting : Setting) (choice : Choice) :
    ∃ older,
      (indexed.push setting choice.taking).nodes =
          older ++ [⟨choice.token setting state, some choice.rule, choice.lexeme.arity⟩] ∧
        Views text { indexed.push setting choice.taking with nodes := older }
          (state.advance setting choice) := by
  have flushed := views.flush setting
  refine ⟨(indexed.flush setting).nodes, ?_, ?_, ?_, flushed.pending_eq, ?_, flushed.represents,
    ?_⟩
  · rw [Indexed.push, views.made_eq]
    rfl
  · rw [Indexed.push, views.rest_eq]
    rfl
  · rw [Indexed.push, views.position_eq]
    rfl
  · rw [Indexed.push, views.made_eq, flushed.events_eq]
    rfl
  · have known : (indexed.flush setting).known = indexed.known := by
      unfold Indexed.flush
      split <;> rfl
    rw [Indexed.push, known]
    exact views.reached.move (Nat.le_add_right _ _)

theorem push_back {pairing : Pairing} (views : Views text indexed state)
    (applies : choice.Applies setting state) (paired : choice.pairing = some pairing) :
    ∃ older,
      (indexed.push setting choice.taking).nodes =
          older ++ [⟨choice.token setting state, some choice.rule, choice.lexeme.arity⟩] ∧
        Views text { indexed.push setting choice.taking with nodes := older }
          (state.advance setting choice) ∧
        Represents 0 older (indexed.push setting choice.taking).stack
          (pairing.abandoned ++ pairing.frame :: pairing.outer)
          (state.advance setting choice).siblings := by
  obtain ⟨older, newest, pushed⟩ := views.push setting choice
  refine ⟨older, newest, pushed, ?_⟩
  rw [← (applies.pairs paired).frames_eq, ← State.advance_frames choice]
  exact pushed.represents

theorem fold?_eq {pairing : Pairing} (views : Views text indexed state)
    (applies : choice.Applies setting state) (paired : choice.pairing = some pairing) :
    ∃ next, (indexed.push setting choice.taking).fold? pairing.partner = some (.folded next) ∧
      (setting.fold = true → Views text next (state.accept setting choice)) := by
  obtain ⟨older, newest, pushed, represents⟩ := views.push_back applies paired
  obtain ⟨nodes, stack, folded, around⟩ := Indexed.fold?_eq represents newest
  refine ⟨_, folded, fun fold => ?_⟩
  rw [State.accept_eq, State.add, paired]
  simp only [State.close, fold, if_true]
  refine ⟨pushed.rest_eq, pushed.position_eq, pushed.pending_eq, ?_, around, pushed.reached⟩
  have events := pushed.events_eq
  simp only at events ⊢
  rw [events]

theorem closeFlat?_eq {pairing : Pairing} (views : Views text indexed state)
    (applies : choice.Applies setting state) (paired : choice.pairing = some pairing)
    (flat : setting.fold = false) :
    ∃ next, (indexed.push setting choice.taking).closeFlat? pairing.partner = some next ∧
      Views text next (state.accept setting choice) := by
  obtain ⟨older, newest, pushed, represents⟩ := views.push_back applies paired
  obtain ⟨nodes, stack, closed, around⟩ := Indexed.closeFlat?_eq represents newest
  refine ⟨_, closed, ?_⟩
  rw [State.accept_eq, State.add, paired]
  simp only [State.close, flat, Bool.false_eq_true, if_false]
  refine ⟨pushed.rest_eq, pushed.position_eq, pushed.pending_eq, ?_, around, pushed.reached⟩
  have events := pushed.events_eq
  simp only at events ⊢
  rw [events]

/-- Taking a rule leads to the same by indices as by frames. -/
theorem accept?_eq (views : Views text indexed state) (applies : choice.Applies setting state) :
    ∃ next, indexed.accept? setting choice.taking = some next ∧
      Views text next (state.accept setting choice) := by
  rw [accept?, Choice.taking_partner, Choice.taking_rule]
  cases paired : choice.pairing with
  | some pairing =>
      rw [Option.map_some]
      cases fold : setting.fold with
      | true =>
          obtain ⟨next, folded, after⟩ := views.fold?_eq applies paired
          refine ⟨next, ?_, after fold⟩
          simp only [if_true, folded, Option.map_some]
          rfl
      | false => exact views.closeFlat?_eq applies paired fold
  | none =>
      obtain ⟨older, newest, pushed⟩ := views.push setting choice
      rw [Option.map_none, State.accept_eq, State.add, paired]
      cases choice.rule.front with
      | true =>
          simp only [if_true]
          refine ⟨_, rfl, pushed.rest_eq, pushed.position_eq, pushed.pending_eq, ?_, ?_,
            pushed.reached⟩
          · have events := pushed.events_eq
            simp only at events ⊢
            rw [events, views.made_eq]
            rfl
          · have opened := pushed.represents.concat_front choice.rule choice.lexeme.arity
              (choice.token setting state)
            simpa [newest] using opened
      | false =>
          simp only [Bool.false_eq_true, if_false]
          refine ⟨_, rfl, pushed.rest_eq, pushed.position_eq, pushed.pending_eq, pushed.events_eq,
            ?_, pushed.reached⟩
          rw [newest]
          exact pushed.represents.concat _

/-- A step by indices reads no index that is out of range, and leads to the same as one by
frames. -/
theorem step?_eq (views : Views text indexed state) (inside : state.Inside text)
    (horizon : setting.horizon = .ofText text) :
    ∃ next, indexed.step? setting = some next ∧ Views text next (state.step setting) := by
  obtain ⟨noted, prepared, after⟩ := views.prepare?_eq inside horizon
  unfold step?
  rw [prepared, State.step_eq_noted]
  cases chosen : state.choice? setting with
  | none => exact ⟨noted.skipChar, rfl, after.skipChar⟩
  | some choice =>
      exact after.accept?_eq ((State.choice?_applies chosen).withEvents _)

theorem run?_eq (views : Views text indexed state) (inside : state.Inside text)
    (horizon : setting.horizon = .ofText text) (bound : Nat) :
    ∃ last, indexed.run? setting bound = some last ∧
      Views text last (state.run setting bound) := by
  induction bound generalizing indexed state with
  | zero => exact ⟨indexed, rfl, views⟩
  | succ bound induction =>
      rw [run?, State.run, views.rest_eq]
      split
      · exact ⟨indexed, rfl, views⟩
      · obtain ⟨next, stepped, after⟩ := views.step?_eq inside horizon
        rw [stepped]
        exact induction after (inside_kept.step inside)

theorem finish?_eq (views : Views text indexed state) :
    indexed.finish? setting = some (state.finish setting) := by
  have flushed := views.flush setting
  unfold finish? State.finish
  generalize indexed.flush setting = ended at flushed ⊢
  obtain ⟨given, _, tokens, run⟩ := flushed.represents.foldlM_demote?_eq [] [] rfl
    { ended with stack := [] } (by simp)
  simp only [Option.bind_eq_bind, run, Option.bind_some, List.nil_append, List.append_nil, tokens]
  rw [flushed.events_eq]
  rfl

end Views

/-- A scan by indices reads no index that is out of range, and returns what the scan by frames
returns. -/
theorem scanText?_eq (horizon : setting.horizon = .ofText text) :
    scanText? setting text = some (Scan.scanText setting text) := by
  obtain ⟨last, run, views⟩ := (Views.initial text).run?_eq (.initial text) horizon text.length
  rw [scanText?, run, Option.bind_some, views.finish?_eq]
  rfl

end Indexed

end Scan

open Scan

namespace Reading

/-- Any number of steps by indices comes to the same place as that number of steps by frames. -/
theorem exists_run? (options : Options) (reading : Reading) (bound : Nat) :
    ∃ indexed,
      (Indexed.initial reading.text).run? (reading.setting options) bound = some indexed ∧
        indexed.Views reading.text
          ((State.initial reading.text).run (reading.setting options) bound) := by
  have horizon : (reading.setting options).horizon = .ofText reading.text := rfl
  exact (Indexed.Views.initial reading.text).run?_eq (.initial reading.text) horizon bound

theorem scanText?_eq_outcome (options : Options) (reading : Reading) :
    Indexed.scanText? (reading.setting options) reading.text = some (reading.outcome options) := by
  rw [Indexed.scanText?_eq rfl, outcome, read_eq]
  rfl

/-- At every state of a reading, looking for a closer tells exactly whether it occurs in the rest of
the text, whatever was looked for before and however far the reading has moved since.  The horizon
of the text tells the same. -/
theorem closers_found_exactly (options : Options) (reading : Reading) (bound : Nat) :
    ∃ indexed,
      (Indexed.initial reading.text).run? (reading.setting options) bound = some indexed ∧
        indexed.Views reading.text
          ((State.initial reading.text).run (reading.setting options) bound) ∧
        indexed.rest = reading.text.drop indexed.position ∧
        ∀ known, Sightings.Reached reading.text indexed.position known → ∀ closer,
          ((known.lookUp closer indexed.position indexed.rest).1 = true ↔
              closer.text <:+: reading.text.drop indexed.position) ∧
            (reading.setting options).horizon.isAhead closer indexed.position =
              (known.lookUp closer indexed.position indexed.rest).1 := by
  obtain ⟨indexed, run, views⟩ := reading.exists_run? options bound
  have rest : indexed.rest = reading.text.drop indexed.position := by
    rw [views.rest_eq, views.position_eq, (Passes.initial.run bound).inside.rest_eq]
  refine ⟨indexed, run, views, rest, ?_⟩
  intro known reached closer
  have found := reached.lookUp_iff closer
  rw [rest]
  refine ⟨found, ?_⟩
  rw [Bool.eq_iff_iff, found]
  exact Horizon.isAhead_iff

end Reading

end PassageMarkup
