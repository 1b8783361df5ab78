import PassageMarkup.Proofs.Scan.Departures
import PassageMarkup.Proofs.Scan.Indexed

/-!
# The bookkeeping of fronts

Every front that is opened leaves the stack once: with the pair that it begins, or given up.  The
events of a reading tell both, and at every state the fronts that have not left yet are those on the
stack.
-/

namespace PassageMarkup

namespace Event

/-- The kind and the place of the front that an event opens. -/
def opening? : Event → Option (Kind × Nat)
  | opened kind start => some (kind, start)
  | _ => none

/-- The kind and the place of the front that leaves with an event: it begins a pair, or is given
up. -/
def leaving? : Event → Option (Kind × Nat)
  | demoted kind start => some (kind, start)
  | closed front start _ _ _ => some (front, start)
  | _ => none

/-- Events in a text from `first` to `last` leave some fronts open.  The fronts that were opened
stand at different places of the text, and each of them has left once or is still open. -/
structure Accounts (first last : Nat) (events : List Event) (fronts : List (Kind × Nat)) :
    Prop where
  balance : (events.filterMap opening?).Perm (events.filterMap leaving? ++ fronts)
  distinct : ((events.filterMap opening?).map Prod.snd).Nodup
  within : ∀ front ∈ events.filterMap opening?, first ≤ front.2 ∧ front.2 < last

namespace Accounts

variable {first last start stop : Nat} {events inner more : List Event}
  {fronts outer : List (Kind × Nat)} {kind : Kind}

theorem nil : Accounts first last [] [] :=
  ⟨.refl _, List.nodup_nil, by simp⟩

theorem widen (accounts : Accounts start stop events fronts) (before : first ≤ start)
    (after : stop ≤ last) : Accounts first last events fronts := by
  refine ⟨accounts.balance, accounts.distinct, ?_⟩
  intro front opened
  have := accounts.within front opened
  omega

theorem perm (accounts : Accounts first last events fronts) (same : events.Perm more) :
    Accounts first last more fronts := by
  have openings := same.filterMap opening?
  have leavings := same.filterMap leaving?
  refine ⟨?_, ?_, ?_⟩
  · exact openings.symm.trans (accounts.balance.trans (leavings.append_right fronts))
  · exact (openings.map Prod.snd).nodup_iff.mp accounts.distinct
  · intro front opened
    exact accounts.within front (openings.mem_iff.mpr opened)

theorem front_perm (accounts : Accounts first last events fronts) (same : fronts.Perm outer) :
    Accounts first last events outer :=
  ⟨accounts.balance.trans (same.append_left _), accounts.distinct, accounts.within⟩

theorem opened (accounts : Accounts first last events fronts) (kind : Kind) (after : first ≤ last) :
    Accounts first (last + 1) (.opened kind last :: events) ((kind, last) :: fronts) := by
  refine ⟨?_, ?_, ?_⟩
  · exact (accounts.balance.cons (kind, last)).trans List.perm_middle.symm
  · refine List.nodup_cons.mpr ⟨?_, accounts.distinct⟩
    intro again
    obtain ⟨front, opened, same⟩ := List.mem_map.mp again
    have := accounts.within front opened
    omega
  · intro front opened
    rcases List.mem_cons.mp opened with rfl | earlier
    · simp only
      omega
    · have := accounts.within front earlier
      omega

theorem leave (accounts : Accounts first last events fronts)
    (silent : more.filterMap opening? = [])
    (gone : fronts.Perm (more.filterMap leaving? ++ outer)) :
    Accounts first last (more ++ events) outer := by
  have openings : (more ++ events).filterMap opening? = events.filterMap opening? := by
    rw [List.filterMap_append, silent, List.nil_append]
  refine ⟨?_, ?_, ?_⟩
  · rw [openings, List.filterMap_append, List.append_assoc]
    calc List.Perm (events.filterMap opening?) (events.filterMap leaving? ++ fronts) :=
        accounts.balance
      List.Perm _ (events.filterMap leaving? ++ (more.filterMap leaving? ++ outer)) :=
        gone.append_left _
      List.Perm _ (more.filterMap leaving? ++ (events.filterMap leaving? ++ outer)) := by
        rw [← List.append_assoc, ← List.append_assoc]
        exact List.perm_append_comm.append_right outer
  · rw [openings]
    exact accounts.distinct
  · rw [openings]
    exact accounts.within

theorem balanced (accounts : Accounts first last events []) :
    (events.filterMap opening?).Perm (events.filterMap leaving?) := by
  have balance := accounts.balance
  rw [List.append_nil] at balance
  exact balance

/-- Adds the events of an inner text, in which all fronts that are opened leave again. -/
theorem append_inner (accounts : Accounts first start events fronts)
    (inside : Accounts start stop inner []) (before : first ≤ start) (after : start ≤ stop) :
    Accounts first stop (inner ++ events) fronts := by
  refine ⟨?_, ?_, ?_⟩
  · rw [List.filterMap_append, List.filterMap_append, List.append_assoc]
    exact inside.balanced.append accounts.balance
  · rw [List.filterMap_append, List.map_append, List.nodup_append]
    refine ⟨inside.distinct, accounts.distinct, ?_⟩
    intro place later other earlier
    obtain ⟨front, opened, rfl⟩ := List.mem_map.mp later
    obtain ⟨frontBefore, openedBefore, rfl⟩ := List.mem_map.mp earlier
    have := inside.within front opened
    have := accounts.within frontBefore openedBefore
    omega
  · intro front opened
    rw [List.filterMap_append] at opened
    rcases List.mem_append.mp opened with later | earlier
    · have := inside.within front later
      omega
    · have := accounts.within front earlier
      omega

theorem leavings_nodup (accounts : Accounts first last events []) :
    ((events.filterMap leaving?).map Prod.snd).Nodup :=
  (accounts.balanced.map Prod.snd).nodup_iff.mp accounts.distinct

end Accounts

end Event

namespace Scan

variable {setting : Setting} {state : State} {choice : Choice} {text : Text}

def Frame.opening (frame : Frame) : Kind × Nat :=
  (frame.front.kind, frame.front.start)

theorem Frame.filterMap_demotion (frames : List Frame) :
    (frames.map demotion).filterMap Event.opening? = [] ∧
      (frames.map demotion).filterMap Event.leaving? = frames.map opening := by
  induction frames with
  | nil => exact ⟨rfl, rfl⟩
  | cons frame outer induction =>
      constructor
      · exact induction.1
      · exact congrArg (frame.opening :: ·) induction.2

/-- The events of a state leave its fronts open. -/
def State.Accounted (setting : Setting) (state : State) : Prop :=
  Event.Accounts setting.offset (setting.offset + state.position) state.events
    (state.frames.map Frame.opening)

def Setting.ClosesInner (setting : Setting) : Prop :=
  setting.ReadsInto fun _ offset inner outcome =>
    Event.Accounts offset (offset + inner.length) outcome.events []

theorem readInner_accounts (closes : setting.ClosesInner) (rule : Rule) (start : Nat)
    (inner : Text) :
    Event.Accounts start (start + inner.length) (readInner setting rule start inner).events [] :=
  closes.readInner rule ⟨.refl [], List.nodup_nil, by simp [Event.opening?]⟩

/-- An inner text stands behind the first character of the token around it. -/
theorem Choice.Applies.makeToken_accounts (applies : choice.Applies setting state)
    (rules : setting.rules = Rule.ofMode) (closes : setting.ClosesInner) :
    Event.Accounts (setting.offset + state.position + 1)
      (setting.offset + state.position + choice.lexeme.length)
      (makeToken setting choice.rule choice.lexeme (setting.offset + state.position)
        (choice.consumed state)).2 [] := by
  unfold makeToken
  split
  · exact .nil
  · rename_i span marked
    simp only
    split
    · obtain ⟨positive, nonempty, bounded⟩ := applies.inner_bounds rules marked
      have length : ((choice.consumed state).slice span).length = span.stop - span.start :=
        Text.length_slice (by rw [applies.length_consumed]; exact bounded)
      apply (readInner_accounts closes _ _ _).widen
      · omega
      · omega
    · exact .nil

theorem State.Accounted.accept (applies : choice.Applies setting state)
    (rules : setting.rules = Rule.ofMode) (closes : setting.ClosesInner)
    (accounted : state.Accounted setting) : (state.accept setting choice).Accounted setting := by
  have inside := applies.makeToken_accounts rules closes
  have positive := applies.length_pos
  have events : (state.advance setting choice).events =
      (makeToken setting choice.rule choice.lexeme (setting.offset + state.position)
        (choice.consumed state)).2 ++ state.events := advance_events choice
  have advanced : Event.Accounts setting.offset
      (setting.offset + state.position + choice.lexeme.length)
      (state.advance setting choice).events (state.frames.map Frame.opening) := by
    rw [events]
    exact (accounted.widen (Nat.le_refl _) (Nat.le_succ _)).append_inner inside (by omega)
      (by omega)
  have position : (state.advance setting choice).position =
      state.position + choice.lexeme.length := rfl
  rw [Accounted, accept_eq, add_position, position, ← Nat.add_assoc]
  unfold add
  split
  · rename_i pairing paired
    obtain ⟨silent, abandoned⟩ := Frame.filterMap_demotion pairing.abandoned
    rw [(applies.pairs paired).frames_eq, List.map_append, ← abandoned] at advanced
    have inner := advanced.leave silent (.refl _)
    exact @Event.Accounts.leave _ _ _ [_] _ _ inner rfl (.refl _)
  · split
    · -- The front stands before the inner text of its token, if it has one.
      have opened := (accounted.opened choice.rule.kind (Nat.le_add_right _ _)).append_inner inside
        (by omega) (by omega)
      rw [choice.token_kind, choice.token_start, events, advance_frames]
      have front : Frame.opening ⟨choice.rule, choice.lexeme.arity, choice.token setting state,
          (state.advance setting choice).siblings⟩ =
            (choice.rule.kind, setting.offset + state.position) := by
        rw [Frame.opening, choice.token_kind, choice.token_start]
      rw [List.map_cons, front]
      exact opened.perm List.perm_middle
    · rw [advance_frames]
      exact advanced

theorem State.Accounted.noted (accounted : state.Accounted setting) :
    (state.noted setting).Accounted setting := by
  have refusal : ∀ refused : List Kind, ∀ event ∈ (refused.map fun kind =>
      Event.refused kind (setting.offset + state.position)).reverse,
        event.opening? = none ∧ event.leaving? = none := by
    intro refused event noted
    obtain ⟨kind, _, rfl⟩ := List.mem_map.mp (List.mem_reverse.mp noted)
    exact ⟨rfl, rfl⟩
  apply Event.Accounts.leave accounted
  · exact List.filterMap_eq_nil_iff.mpr fun event noted => (refusal _ event noted).1
  · rw [List.filterMap_eq_nil_iff.mpr fun event noted => (refusal _ event noted).2]
    exact .refl _

theorem State.Accounted.step (rules : setting.rules = Rule.ofMode) (closes : setting.ClosesInner)
    (accounted : state.Accounted setting) : (state.step setting).Accounted setting := by
  rw [step_eq_noted]
  cases chosen : state.choice? setting with
  | none =>
      simp only
      unfold skipChar
      split
      · exact accounted.noted
      · exact accounted.noted.widen (Nat.le_refl _) (Nat.le_succ _)
  | some choice => exact accounted.noted.accept ((choice?_applies chosen).withEvents _) rules closes

theorem State.Accounted.finish (accounted : state.Accounted setting) :
    Event.Accounts setting.offset (setting.offset + state.position) (state.finish setting).events
      [] := by
  obtain ⟨silent, abandoned⟩ := Frame.filterMap_demotion state.frames
  rw [State.finish, flush_frames, flush_events]
  apply Event.Accounts.leave accounted silent
  rw [abandoned, List.append_nil]

/-- Whatever is read, all fronts that are opened leave again. -/
theorem read_accounts (fold : Bool) (place : Text) (room : Nat) (mode : Mode) (beginsLine : Bool)
    (offset : Nat) (text : Text) :
    Event.Accounts offset (offset + text.length)
      (read Rule.ofMode fold place room mode beginsLine offset text).events [] := by
  apply read_induction (fun _ offset text outcome =>
    Event.Accounts offset (offset + text.length) outcome.events [])
  intro room mode beginsLine offset text closes
  have stepwise : Stepwise (readSetting Rule.ofMode fold place room mode beginsLine offset text)
      fun state => state.Inside text ∧
        state.Accounted (readSetting Rule.ofMode fold place room mode beginsLine offset text) :=
    fun _ holds _ => ⟨inside_kept.step holds.1, holds.2.step rfl closes⟩
  obtain ⟨final, ⟨inside, accounted⟩, _, scanned⟩ := stepwise.scanText ⟨.initial text, .nil⟩
  have total := inside.position_add_rest
  rw [scanned]
  exact accounted.finish.widen (Nat.le_refl _) (Nat.add_le_add_left (by omega) _)

def Node.opening (node : Node) : Kind × Nat :=
  (node.token.kind, node.token.start)

theorem Represents.filterMap_opening {nodes : List Node} {stack : List Nat} {frames : List Frame}
    {siblings : List Token} (represents : Represents 0 nodes stack frames siblings)
    (more : List Node) :
    (stack.filterMap fun index => (nodes ++ more)[index]?.map Node.opening) =
      (frames.map Frame.opening).reverse := by
  induction represents generalizing more with
  | nil => rfl
  | @cons before after stack frame outer _ deeper _ induction =>
      have here : (before ++ frame.node :: after ++ more)[0 + before.length]? =
          some frame.node := by
        simp
      have around := induction (frame.node :: after ++ more)
      rw [← List.append_assoc] at around
      rw [List.filterMap_append, around, List.map_cons, List.reverse_cons]
      simp only [List.filterMap_cons, List.filterMap_nil, here, Option.map_some]
      rfl

namespace Indexed

/-- The kinds and the places of the fronts on the stack, the outermost first. -/
def fronts (indexed : Indexed) : List (Kind × Nat) :=
  indexed.stack.filterMap fun index => indexed.nodes[index]?.map Node.opening

theorem Views.fronts_eq {indexed : Indexed} (views : Views text indexed state) :
    indexed.fronts = (state.frames.map Frame.opening).reverse := by
  have fronts := views.represents.filterMap_opening []
  rw [List.append_nil] at fronts
  exact fronts

/-- What holds of the stack at every state of a scan. -/
structure Sound (setting : Setting) (indexed : Indexed) : Prop where
  increasing : indexed.stack.Pairwise (· < ·)
  /-- Each index is that of a front, which is still as its rule made it. -/
  front_kept : ∀ index ∈ indexed.stack, ∃ node rule mode, indexed.nodes[index]? = some node ∧
    node.rule = some rule ∧ rule ∈ setting.rules mode ∧ rule.front = true ∧
      node.token.kind = rule.kind ∧ node.token.children = []
  /-- Where a step closes a front, folding the pair does not end early. -/
  folds : ∀ noted taking partner, indexed.prepare? setting = some (noted, some taking) →
    taking.partner = some partner →
      ∃ next, (noted.push setting taking).fold? partner = some (.folded next)
  /-- The fronts that were opened and have not left are those on the stack. -/
  accounts : Event.Accounts setting.offset (setting.offset + indexed.position) indexed.events
    indexed.fronts

theorem Views.front_kept {indexed : Indexed} {index : Nat} (views : Views text indexed state)
    (fronted : state.Fronted setting) (rules : setting.rules = Rule.ofMode)
    (member : index ∈ indexed.stack) :
    ∃ node rule mode, indexed.nodes[index]? = some node ∧ node.rule = some rule ∧
      rule ∈ setting.rules mode ∧ rule.front = true ∧ node.token.kind = rule.kind ∧
        node.token.children = [] := by
  obtain ⟨frame, isFrame, _, here⟩ := views.represents.exists_frame member
  obtain ⟨around, inside, opened⟩ := fronted frame isFrame
  obtain ⟨name, text, start, front, _⟩ := opened.front_eq
  rw [Nat.sub_zero] at here
  refine ⟨frame.node, frame.rule, around, here, rfl, ?_, opened.isFront, ?_, ?_⟩
  · rw [rules]
    exact opened.rule_mem
  · rw [Frame.node_token, front]
    rfl
  · rw [Frame.node_token, front]
    rfl

theorem Views.folds {indexed noted : Indexed} {taking : Taking} {partner : Partner}
    (views : Views text indexed state) (inside : state.Inside text)
    (horizon : setting.horizon = .ofText text)
    (prepared : indexed.prepare? setting = some (noted, some taking))
    (paired : taking.partner = some partner) :
    ∃ next, (noted.push setting taking).fold? partner = some (.folded next) := by
  obtain ⟨other, chosen, after⟩ := views.prepare?_eq inside horizon
  rw [chosen, Option.some.injEq, Prod.mk.injEq, Option.map_eq_some_iff] at prepared
  obtain ⟨rfl, choice, taken, rfl⟩ := prepared
  obtain ⟨pairing, found, rfl⟩ := Option.map_eq_some_iff.mp paired
  obtain ⟨next, folded, _⟩ :=
    after.fold?_eq ((State.choice?_applies taken).withEvents _) found
  exact ⟨next, folded⟩

end Indexed

end Scan

open Scan

namespace Reading

variable {options : Options} {reading : Reading} {state : State}

theorem Passes.accounted (passes : reading.Passes options state) :
    state.Accounted (reading.setting options) := by
  have closes : (reading.setting options).ClosesInner :=
    readSetting_readsInto fun _ innerMode => read_accounts _ _ _ innerMode false
  have stepwise : Stepwise (reading.setting options) (State.Accounted (reading.setting options)) :=
    fun _ accounted _ => accounted.step rfl closes
  exact passes.stepwise stepwise .nil

theorem Passes.sound {indexed : Indexed} (passes : reading.Passes options state)
    (views : indexed.Views reading.text state) : indexed.Sound (reading.setting options) := by
  constructor
  · exact views.represents.increasing
  · intro index member
    exact views.front_kept passes.fronted rfl member
  · intro noted taking partner prepared paired
    exact views.folds passes.inside rfl prepared paired
  · rw [views.fronts_eq, views.position_eq, views.events_eq]
    exact passes.accounted.front_perm (List.reverse_perm _).symm

/-- At every state of a reading the stack holds the fronts that are open, in their order and as
their rules made them, and no folding ends early.  Each front that was opened, in the text or in an
inner text at any depth, has left once when the reading ends: with the one pair that it begins, or
given up.  The tree shows which: the pair begins at the place of its front, and the place of a front
that was given up is text. -/
theorem fronts_leave_once (options : Options) (reading : Reading) :
    (∀ bound, ∃ indexed,
      (Indexed.initial reading.text).run? (reading.setting options) bound = some indexed ∧
        indexed.Sound (reading.setting options)) ∧
      ∃ outcome, Indexed.scanText? (reading.setting options) reading.text = some outcome ∧
        outcome = reading.outcome options ∧
        ((outcome.events.filterMap Event.opening?).map Prod.snd).Nodup ∧
        ((outcome.events.filterMap Event.leaving?).map Prod.snd).Nodup ∧
        (outcome.events.filterMap Event.opening?).Perm
          (outcome.events.filterMap Event.leaving?) ∧
        ∀ event ∈ outcome.events, event.Shown options.fold outcome.tokens := by
  constructor
  · intro bound
    obtain ⟨indexed, run, views⟩ := reading.exists_run? options bound
    exact ⟨indexed, run, (Passes.initial.run bound).sound views⟩
  · have accounts : Event.Accounts reading.offset (reading.offset + reading.text.length)
        (reading.outcome options).events [] := read_accounts _ _ _ _ _ _ _
    exact ⟨_, reading.scanText?_eq_outcome options, rfl, accounts.distinct,
      accounts.leavings_nodup, accounts.balanced, read_shows _ _ _ _ _ _ _⟩

/-- An emphasis that is open inside a hook is given up with the hook, and one that is open at the
end is given up there. -/
example :
    (Indexed.scanText? (setting {} ⟨.prose, true, 0, 0, "[a*b]*".toList⟩) "[a*b]*".toList).map
        (fun outcome => outcome.events.reverse) =
      some
        [.opened .hookFront 0, .opened (.emphasis .em) 2, .demoted (.emphasis .em) 2,
          .closed .hookFront 0 .hookBack 4 .hook, .opened (.emphasis .em) 5,
          .demoted (.emphasis .em) 5] := by
  decide +kernel

end Reading

end PassageMarkup
