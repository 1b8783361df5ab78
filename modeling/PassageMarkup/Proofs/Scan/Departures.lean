import PassageMarkup.Proofs.Scan.Lines
import PassageMarkup.Proofs.Scan.Refusal

/-!
# What fronts leave behind

A front that is given up leaves text at its place.  One that is closed leaves the pair that begins
there, or stays beside its back where pairs are not folded.  What is left of a front lasts, so the
events of a reading can be seen in the tree that the reading gives.
-/

namespace PassageMarkup

open Scan Token

variable {source : Text} {fold : Bool} {tokens others : List Token} {event : Event}

/-- A token of a kind other than text begins at a place and ends behind another. -/
def Token.Reaches (tokens : List Token) (kind : Kind) (start behind : Nat) : Prop :=
  kind ≠ .text ∧
    Somewhere (fun token => token.kind = kind ∧ token.start = start ∧ behind < token.stop) tokens

theorem Token.Reaches.of_mem {token : Token} {behind : Nat} (member : token ∈ tokens)
    (notText : token.kind ≠ .text) (after : behind < token.stop) :
    Reaches tokens token.kind token.start behind :=
  ⟨notText, token, mem_nodesList_of_mem member, rfl, rfl, after⟩

/-- What an event tells of a front is to be seen in a list of trees: the place of a front that was
given up is text, and a pair that was closed begins with its front and reaches past the start of its
back.  Where pairs are not folded, the front and the back are there instead. -/
def Event.Shown (fold : Bool) (tokens : List Token) : Event → Prop
  | demoted _ start => InText tokens start
  | closed front frontStart back backStart pair =>
    (fold = true → Reaches tokens pair frontStart backStart) ∧
      (fold = false →
        Reaches tokens front frontStart frontStart ∧ Reaches tokens back backStart backStart)
  | _ => True

/-- What lasts from one list of trees to another shows an event there too. -/
theorem Event.Shown.imp (shown : event.Shown fold tokens)
    (lasts : ∀ property, Lasting source property → Somewhere property tokens →
      Somewhere property others) : event.Shown fold others := by
  have reaches : ∀ {kind start behind}, Reaches tokens kind start behind →
      Reaches others kind start behind := by
    rintro kind start behind ⟨notText, holds⟩
    refine ⟨notText, lasts _ (lasting_of_not_text ?_) holds⟩
    rintro token ⟨rfl, _⟩
    exact notText
  cases event with
  | demoted kind start => exact lasts _ (inText_lasting source start) shown
  | closed front frontStart back backStart pair =>
      exact ⟨fun folds => reaches (shown.1 folds), fun flat => (shown.2 flat).imp reaches reaches⟩
  | refused kind offset => trivial
  | unread offset => trivial
  | opened kind start => trivial

theorem Event.Shown.mono (shown : event.Shown fold tokens) (subset : tokens ⊆ others) :
    event.Shown fold others :=
  @Event.Shown.imp [] _ _ _ _ shown fun _ _ holds => holds.mono subset

namespace Scan

variable {setting : Setting} {state : State} {choice : Choice} {pairing : Pairing}
  {frame : Frame} {frames : List Frame} {length : Nat}

/-- All events of an outcome can be seen in its tokens. -/
def Outcome.Shows (fold : Bool) (outcome : Outcome) : Prop :=
  ∀ event ∈ outcome.events, event.Shown fold outcome.tokens

/-- All events of a state can be seen in its tokens other than the open fronts. -/
def State.Shows (setting : Setting) (state : State) : Prop :=
  ∀ event ∈ state.events, event.Shown setting.fold state.closedTokens

def Setting.ReadsShown (setting : Setting) : Prop :=
  setting.ReadsInto fun _ _ _ outcome => outcome.Shows setting.fold

namespace Frame.Opened

variable {place : Text} {around inside : Mode}

theorem start_lt_stop (opened : frame.Opened place around inside) :
    frame.front.start < frame.front.stop := by
  obtain ⟨name, text, start, front, opens⟩ := opened.front_eq
  rw [front]
  exact Nat.lt_add_of_pos_right (List.length_pos_iff.mpr opens.ne_nil)

theorem kind_ne_text (opened : frame.Opened place around inside) : frame.front.kind ≠ .text := by
  rw [opened.kind_eq]
  exact Rule.kind_ne_text opened.rule_mem

theorem inText_unwind (opened : frame.Opened place around inside) (member : frame ∈ frames)
    (siblings : List Token) : InText (Frame.unwind siblings frames) frame.front.start := by
  have given : frame.front.demote ∈ Frame.unwind siblings frames := by
    rw [Frame.unwind_eq]
    apply List.mem_append_right
    exact List.mem_flatMap.mpr ⟨frame, member, List.mem_cons_self⟩
  exact ⟨_, mem_nodesList_of_mem given, rfl, Nat.le_refl _, opened.start_lt_stop⟩

end Frame.Opened

theorem Choice.Applies.token_start_lt_stop (applies : choice.Applies setting state) :
    (choice.token setting state).start < (choice.token setting state).stop := by
  have positive := applies.length_pos
  rw [choice.token_start, choice.token_stop, applies.length_consumed]
  omega

/-- A pair that is closed, or its front and its back, is among the tokens afterwards. -/
theorem Choice.Applies.closed_shown (applies : choice.Applies setting state)
    (rules : setting.rules = Rule.ofMode) (fronted : state.Fronted setting)
    (paired : choice.pairing = some pairing) (before : State) :
    Event.Shown setting.fold
      (before.close setting (choice.token setting state) pairing).closedTokens
      (.closed pairing.frame.front.kind pairing.frame.front.start
        (choice.token setting state).kind (choice.token setting state).start pairing.kind) := by
  have back := applies.token_start_lt_stop
  obtain ⟨_, _, around, inside, opened⟩ := applies.closes_front rules fronted paired
  constructor
  · intro fold
    let pair := foldPair pairing.kind pairing.frame.front (pairing.children before.siblings)
      (choice.token setting state)
    have member : pair ∈
        (before.close setting (choice.token setting state) pairing).closedTokens := by
      simp [State.close, State.closedTokens, fold, pair, Pairing.children]
    have notText : pair.kind ≠ .text := by
      intro isText
      have isPair := applies.pair_isPair rules paired
      rw [← foldPair_kind pairing.kind, isText] at isPair
      contradiction
    exact .of_mem member notText back
  · intro flat
    have notText : (choice.token setting state).kind ≠ .text := by
      rw [choice.token_kind]
      exact Rule.kind_ne_text (applies.rule_mem_ofMode rules)
    constructor
    · apply Reaches.of_mem _ opened.kind_ne_text opened.start_lt_stop
      simp [State.close, State.closedTokens, flat]
    · apply Reaches.of_mem _ notText back
      simp [State.close, State.closedTokens, flat]

/-- The events of an inner text are seen in the token around it, which stands alone. -/
theorem Choice.Applies.inner_shown (applies : choice.Applies setting state)
    (rules : setting.rules = Rule.ofMode) (reads : setting.ReadsShown)
    (inner : event ∈ (makeToken setting choice.rule choice.lexeme
      (setting.offset + state.position) (choice.consumed state)).2) :
    choice.rule.front = false ∧ choice.pairing = none ∧
      event.Shown setting.fold [choice.token setting state] := by
  obtain ⟨span, marked, fold, noted⟩ := State.mem_makeToken_events_iff.mp inner
  obtain ⟨notFront, alone⟩ := applies.alone_of_marked rules marked
  refine ⟨notFront, alone, ?_⟩
  have shows : (readInner setting choice.rule (setting.offset + state.position + span.start)
      ((choice.consumed state).slice span)).Shows setting.fold := by
    apply reads.readInner
    intro event unread
    cases List.mem_singleton.mp unread
    trivial
  have children := shows event noted
  rw [← (applies.marks rules fold marked).children_eq] at children
  exact @Event.Shown.imp [] _ _ _ _ children fun _ _ holds => holds.ofChildren

namespace State

theorem accept_eq_close (paired : choice.pairing = some pairing) :
    state.accept setting choice =
      (state.advance setting choice).close setting (choice.token setting state) pairing := by
  rw [accept_eq, add, paired]

theorem mem_accept_events (noted : event ∈ (state.accept setting choice).events) :
    event ∈ state.events ∨
      event ∈ (makeToken setting choice.rule choice.lexeme (setting.offset + state.position)
        (choice.consumed state)).2 ∨
      (∃ kind start, event = .opened kind start) ∨
      ∃ pairing, choice.pairing = some pairing ∧
        (event = .closed pairing.frame.front.kind pairing.frame.front.start
            (choice.token setting state).kind (choice.token setting state).start pairing.kind ∨
          ∃ frame ∈ pairing.abandoned, event = frame.demotion) := by
  have advanced : (state.advance setting choice).events =
      (makeToken setting choice.rule choice.lexeme (setting.offset + state.position)
        (choice.consumed state)).2 ++ state.events := advance_events choice
  rw [accept_eq, add] at noted
  cases paired : choice.pairing with
  | some pairing =>
      rw [paired] at noted
      simp only [close, advanced, List.cons_append, List.mem_cons, List.mem_append,
        List.mem_map] at noted
      rcases noted with rfl | ⟨frame, member, rfl⟩ | inner | before
      · exact .inr (.inr (.inr ⟨pairing, rfl, .inl rfl⟩))
      · exact .inr (.inr (.inr ⟨pairing, rfl, .inr ⟨frame, member, rfl⟩⟩))
      · exact .inr (.inl inner)
      · exact .inl before
  | none =>
      rw [paired] at noted
      simp only at noted
      split at noted
      · rcases List.mem_cons.mp noted with rfl | earlier
        · exact .inr (.inr (.inl ⟨_, _, rfl⟩))
        · rw [advanced, List.mem_append] at earlier
          exact earlier.elim (fun inner => .inr (.inl inner)) .inl
      · rw [advanced, List.mem_append] at noted
        exact noted.elim (fun inner => .inr (.inl inner)) .inl

/-- What is known of a front before a rule is taken can still be seen afterwards, and so can what
the rule makes of fronts. -/
theorem Shows.accept (rules : setting.rules = Rule.ofMode) (reads : setting.ReadsShown)
    (applies : choice.Applies setting state) (follows : state.Follows source setting length)
    (shows : state.Shows setting) : (state.accept setting choice).Shows setting := by
  obtain ⟨covered, covers⟩ := follows.covers
  intro event noted
  rcases mem_accept_events noted with
    before | inner | ⟨kind, start, rfl⟩ | ⟨pairing, paired, rfl | ⟨frame, abandoned, rfl⟩⟩
  · apply (shows event before).imp
    intro property lasting holds
    exact somewhere_accept lasting applies covers (holds.mono closedTokens_subset_flush)
  · obtain ⟨notFront, alone, shown⟩ := applies.inner_shown rules reads inner
    apply shown.mono
    simp [accept_eq, add, notFront, alone, closedTokens]
  · trivial
  · rw [accept_eq_close paired]
    exact applies.closed_shown rules follows.fronted paired _
  · rw [accept_eq_close paired]
    have frames := (applies.pairs paired).frames_eq
    obtain ⟨around, inside, opened⟩ := follows.fronted frame (by simp [frames, abandoned])
    apply somewhere_between (inText_lasting source _) _ covers.flush.laid
      (opened.inText_unwind abandoned _)
    rw [flush_frames, frames]

theorem Shows.skipChar (shows : state.Shows setting) : state.skipChar.Shows setting := by
  unfold State.skipChar
  split <;> exact shows

theorem Shows.noted (shows : state.Shows setting) : (state.noted setting).Shows setting := by
  intro event known
  rcases mem_noted_events_iff.mp known with before | ⟨kind, _, rfl⟩
  · exact shows event before
  · trivial

theorem Shows.step (rules : setting.rules = Rule.ofMode) (reads : setting.ReadsShown)
    (follows : state.Follows source setting length) (shows : state.Shows setting) :
    (state.step setting).Shows setting := by
  obtain ⟨⟨covered, covers⟩, fronted⟩ := follows
  have known : (state.noted setting).Follows source setting length :=
    ⟨⟨covered, covers.laid, covers.ahead, covers.position_eq, covers.length_eq⟩, fronted⟩
  rw [step_eq_noted]
  cases chosen : state.choice? setting with
  | none => exact shows.noted.skipChar
  | some choice =>
      have applies := (choice?_applies chosen).withEvents (state.noted setting).events
      exact shows.noted.accept rules reads applies known

theorem Shows.finish (follows : state.Follows source setting length)
    (shows : state.Shows setting) : (state.finish setting).Shows setting.fold := by
  obtain ⟨covered, covers⟩ := follows.covers
  intro event noted
  rw [State.finish, flush_frames, flush_events] at noted
  rcases List.mem_append.mp noted with given | before
  · obtain ⟨frame, member, rfl⟩ := List.mem_map.mp given
    obtain ⟨around, inside, opened⟩ := follows.fronted frame member
    apply somewhere_finish (inText_lasting source _) covers
    rw [← Frame.unwind_eq, flush_frames]
    exact opened.inText_unwind member _
  · apply (shows event before).imp
    intro property lasting holds
    apply somewhere_finish lasting covers
    exact (holds.mono closedTokens_subset_flush).mono closedTokens_subset

end State

/-- The events of a reading can be seen in the tree that it gives. -/
theorem read_shows (fold : Bool) (place : Text) (room : Nat) (mode : Mode) (beginsLine : Bool)
    (offset : Nat) (text : Text) :
    (read Rule.ofMode fold place room mode beginsLine offset text).Shows fold := by
  apply read_induction fun _ _ _ outcome => outcome.Shows fold
  intro room mode beginsLine offset text reads
  let setting := readSetting Rule.ofMode fold place room mode beginsLine offset text
  obtain ⟨source, stands⟩ := Text.exists_stands offset text
  have readsInner : setting.ReadsInner source :=
    readSetting_readsInner source fold place room mode beginsLine offset text
  have stepwise : Stepwise setting fun state =>
      state.Follows source setting text.length ∧ state.Shows setting := by
    rintro state ⟨follows, shows⟩ _
    exact ⟨(follows_kept rfl readsInner).step follows, shows.step rfl reads follows⟩
  have initial : (State.initial text).Follows source setting text.length :=
    ⟨⟨offset, .initial stands⟩, by simp [State.Fronted, State.initial]⟩
  have none : (State.initial text).Shows setting := by
    intro event noted
    contradiction
  obtain ⟨final, ⟨follows, shows⟩, _, scanned⟩ := stepwise.scanText ⟨initial, none⟩
  rw [scanned]
  exact shows.finish follows

end Scan

end PassageMarkup
