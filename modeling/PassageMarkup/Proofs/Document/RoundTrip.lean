import PassageMarkup.Proofs.Document.Delimiters
import PassageMarkup.Proofs.Document.Parts
import PassageMarkup.Proofs.Scan.Strings

/-!
# Documents are read as they are written

A scan of the text of a document gives its parts their tokens one after the other.  The proof goes
over the parts of documents and arguments together: the inside of a bracket is read in the mode of
the bracket, and what follows it is never part of a delimiter inside.
-/

namespace PassageMarkup

open Scan

variable {setting : Setting} {state : State} {place tail : Text} {start : Nat}

theorem Text.FollowsPlain.document {text : Text} (follows : text.FollowsPlain) :
    text.Begins isDocumentHead := by
  intro c head
  rcases follows with rfl | ⟨d, rest, rfl, bracket | ⟨rfl, _⟩⟩
  · contradiction
  · cases head
    fin_cases bracket <;> rfl
  · cases head
    decide

theorem Text.Begins.head?_ne {text : Text} {kind : Char → Bool} (begins : text.Begins kind)
    {c : Char} (other : kind c = false) : text.head? ≠ some c := by
  intro head
  rw [begins c head] at other
  contradiction

theorem Document.render_followsPlain {document : List Piece}
    (notPlain : startsPlain document = false) (follows : tail.FollowsPlain) :
    (render document ++ tail).FollowsPlain := by
  cases document with
  | nil => exact follows
  | cons piece rest =>
      cases piece with
      | plain run => contradiction
      | collapsed inner => exact .inr ⟨'\x7b', _, rfl, .inl (by simp)⟩
      | hook name inner =>
          obtain ⟨name, nonempty, called⟩ := name
          cases name with
          | nil => contradiction
          | cons c others =>
              exact .inr ⟨'|', _, rfl, .inr ⟨rfl, c, _, rfl, called c (by simp)⟩⟩
      | call name arguments => exact .inr ⟨'(', _, rfl, .inl (by simp)⟩

theorem Document.render_begins (document : List Piece) (begins : tail.Begins isDocumentHead) :
    (render document ++ tail).Begins isDocumentHead := by
  cases document with
  | nil => exact begins
  | cons piece rest =>
      intro c head
      cases piece with
      | plain run =>
          obtain ⟨text, nonempty, plain⟩ := run
          cases text with
          | nil => contradiction
          | cons d others =>
              cases head
              simp [isDocumentHead, plain c (by simp)]
      | collapsed inner =>
          cases head
          decide
      | hook name inner =>
          cases head
          decide
      | call name arguments =>
          cases head
          decide

theorem Arguments.render_begins (arguments : List Argument) (begins : tail.Begins isArgumentsHead) :
    (render arguments ++ tail).Begins isArgumentsHead := by
  cases arguments with
  | nil => exact begins
  | cons argument rest =>
      intro c head
      cases argument <;> cases head <;> decide

theorem Piece.token_text (piece : Piece) : (piece.token place start).text = piece.render := by
  cases piece <;> rw [token, render] <;> rfl

theorem Argument.token_text (argument : Argument) :
    (argument.token place start).text = argument.render := by
  cases argument <;> rw [token, render] <;> rfl

theorem Text.begins_hookBack (tail : Text) : Begins isDocumentHead ([']'] ++ tail) := by
  intro c head
  cases head
  decide

theorem Text.begins_groupingBack (tail : Text) : Begins isArgumentsHead ([')'] ++ tail) := by
  intro c head
  cases head
  decide

theorem Document.textOf_forest (document : List Piece) :
    Token.textOf (forest place start document) = render document := by
  induction document generalizing start with
  | nil => rfl
  | cons piece rest induction =>
      rw [forest, render, ← induction, ← @Piece.token_text place start piece]
      rfl

theorem Arguments.textOf_forest (arguments : List Argument) :
    Token.textOf (forest place start arguments) = render arguments := by
  induction arguments generalizing start with
  | nil => rfl
  | cons argument rest induction =>
      rw [forest, render, ← induction, ← @Argument.token_text place start argument]
      rfl

theorem Piece.token_isPlainText (piece : Piece) :
    (piece.token place start).isPlainText = piece.isPlain := by
  cases piece <;> rfl

theorem Argument.token_not_plain (argument : Argument) :
    (argument.token place start).isPlainText = false := by
  cases argument <;> rfl

theorem Document.coalesce_forest {document : List Piece} (separated : Separated document) :
    Token.coalesce (forest place start document) = forest place start document := by
  induction document generalizing start with
  | nil => rfl
  | cons piece rest induction =>
      obtain ⟨_, restSeparated, apart⟩ := separated
      rw [forest, Token.coalesce, induction restSeparated]
      cases rest with
      | nil => rfl
      | cons next others =>
          have notBoth : (piece.isPlain && next.isPlain) = false := by
            cases plain : piece.isPlain with
            | false => rfl
            | true => exact apart plain
          simp [forest, Piece.token_isPlainText, notBoth]

theorem Arguments.coalesce_forest (arguments : List Argument) :
    Token.coalesce (forest place start arguments) = forest place start arguments := by
  induction arguments generalizing start with
  | nil => rfl
  | cons argument rest induction =>
      rw [forest, Token.coalesce_cons_of_not_plain _ argument.token_not_plain, induction]

/-- A document is read as it is written where prose is read, whatever may follow it. -/
def Document.IsRead (setting : Setting) (document : List Piece) : Prop :=
  ∀ (state : State) (tail : Text), state.mode setting = .prose →
    state.rest = render document ++ tail → state.frames.length + depth document ≤ setting.room →
    tail.FollowsPlain → (startsPlain document = true → state.pending = []) →
    ∃ later, state.Writes setting (render document)
      (forest setting.place (setting.offset + state.position) document) later

def Arguments.IsRead (setting : Setting) (arguments : List Argument) : Prop :=
  ∀ (state : State) (tail : Text), state.mode setting = .expression →
    state.rest = render arguments ++ tail →
    state.frames.length + depth arguments ≤ setting.room → tail.Begins isArgumentsHead →
    ∃ later, state.Writes setting (render arguments)
      (forest setting.place (setting.offset + state.position) arguments) later

theorem Document.IsRead.exists_writes_pair {document : List Piece} {frontRule backRule : Rule}
    {kind : Kind} {name : Option Text} {front : Text} {c : Char}
    (isRead : IsRead setting document) (separated : Separated document)
    (rules : setting.rules = Rule.ofMode) (fold : setting.fold = true)
    (ahead : state.rest = front ++ render document ++ [c] ++ tail)
    (readsFront : Reads (state.mode setting) frontRule name front
      (render document ++ ([c] ++ tail)))
    (isFront : frontRule.front = true) (closesNothing : frontRule.closes = [])
    (innerMode : frontRule.innerMode = some .prose)
    (room : state.frames.length + (depth document + 1) ≤ setting.room)
    (readsBack : Reads .prose backRule none [c] tail) (bracket : c ∈ ['\x7d', ']'])
    (resolves : backRule.resolves frontRule.kind frontRule.aka 0 0 = some kind) :
    ∃ later, state.Writes setting (front ++ render document ++ [c])
      [.ofPair kind name setting.place (setting.offset + state.position) front (render document) [c]
        fun start => forest setting.place start document] later ∧ later.pending = [] := by
  have listed : c ∈ ['\x7b', '\x7d', '(', ']'] := by
    fin_cases bracket <;> decide
  have follows : Text.FollowsPlain ([c] ++ tail) := .inr ⟨c, tail, rfl, .inl listed⟩
  apply State.exists_writes_pair rules fold ahead readsFront isFront closesNothing innerMode
    (by omega) readsBack resolves (fun start => coalesce_forest separated)
    (fun start => textOf_forest document)
  intro opened opens
  apply isRead opened _ (opens.mode_eq innerMode) opens.rest_eq _ follows fun _ => opens.pending_eq
  rw [opens.frames_length]
  omega

theorem Arguments.IsRead.exists_writes_pair {arguments : List Argument} {frontRule : Rule}
    {kind : Kind} {name : Option Text} {front : Text} (isRead : IsRead setting arguments)
    (rules : setting.rules = Rule.ofMode) (fold : setting.fold = true)
    (ahead : state.rest = front ++ render arguments ++ [')'] ++ tail)
    (readsFront : Reads (state.mode setting) frontRule name front
      (render arguments ++ ([')'] ++ tail)))
    (isFront : frontRule.front = true) (closesNothing : frontRule.closes = [])
    (innerMode : frontRule.innerMode = some .expression)
    (room : state.frames.length + (depth arguments + 1) ≤ setting.room)
    (resolves : Rule.groupingBack.resolves frontRule.kind frontRule.aka 0 0 = some kind) :
    ∃ later, state.Writes setting (front ++ render arguments ++ [')'])
      [.ofPair kind name setting.place (setting.offset + state.position) front (render arguments)
        [')'] fun start => forest setting.place start arguments] later ∧ later.pending = [] := by
  apply State.exists_writes_pair rules fold ahead readsFront isFront closesNothing innerMode
    (by omega) reads_groupingBack resolves (fun start => coalesce_forest arguments)
    (fun start => textOf_forest arguments)
  intro opened opens
  apply isRead opened _ (opens.mode_eq innerMode) opens.rest_eq _ (Text.begins_groupingBack tail)
  rw [opens.frames_length]
  omega

theorem Argument.exists_writes_string {content : StringContent}
    (rules : setting.rules = Rule.ofMode) (fold : setting.fold = true)
    (current : state.mode setting = .expression)
    (ahead : state.rest = ['"'] ++ content.1 ++ ['"'] ++ tail)
    (room : state.frames.length < setting.room) :
    ∃ later, state.Writes setting (['"'] ++ content.1 ++ ['"'])
      [.ofPair .string none setting.place (setting.offset + state.position) ['"'] content.1 ['"']
        (Token.ofContent setting.place content.1)] later ∧ later.pending = [] := by
  apply State.exists_writes_pair rules fold ahead (current ▸ reads_stringOpener) rfl rfl rfl room
    (reads_closingQuote .double) rfl
  · exact Token.coalesce_ofContent setting.place content.1
  · exact Token.textOf_ofContent setting.place content.1
  · intro opened opens
    apply State.exists_writes_content rules opens.frames_eq ⟨rfl, rfl⟩ opens.rest_eq
      opens.pending_eq
    intro c member
    rw [Bool.eq_false_iff]
    intro special
    rcases Quote.isSpecial_iff.mp special with rfl | rfl
    · exact content.2.2 member
    · exact content.2.1 member

mutual

theorem Piece.exists_writes (rules : setting.rules = Rule.ofMode) (fold : setting.fold = true)
    (piece : Piece) {state : State} {tail : Text} (current : state.mode setting = .prose)
    (ahead : state.rest = piece.render ++ tail)
    (room : state.frames.length + piece.depth ≤ setting.room) (separated : piece.Separated)
    (begins : tail.Begins isDocumentHead)
    (alone : piece.isPlain = true → tail.FollowsPlain ∧ state.pending = []) :
    ∃ later, state.Writes setting piece.render
      [piece.token setting.place (setting.offset + state.position)] later ∧
        (piece.isPlain = false → later.pending = []) := by
  have notAngle := begins.head?_ne (show isDocumentHead '<' = false by decide)
  cases piece with
  | plain run =>
      obtain ⟨followsPlain, settled⟩ := alone rfl
      obtain ⟨later, writes⟩ := by
        apply State.exists_writes_text ahead run.nonempty settled
        intro later frames c rest suffix laterAhead
        apply State.choice?_eq_none rules
        have mode : later.mode setting = .prose := by
          rw [← current, State.mode, State.mode, frames]
        rw [mode]
        intro rule member
        apply State.judge_eq_skip
        rw [laterAhead]
        exact Rule.find?_plain_eq_none member (fun d inside => run.plain d (suffix.subset inside))
          followsPlain
      exact ⟨later, writes, by simp [Piece.isPlain]⟩
  | collapsed inner =>
      have isRead := Document.isRead rules fold inner separated
      obtain ⟨later, writes, settled⟩ := isRead.exists_writes_pair separated rules fold ahead
        (current ▸ reads_collapsedFront) rfl rfl rfl room reads_collapsedBack (by decide) rfl
      exact ⟨later, writes, fun _ => settled⟩
  | hook name inner =>
      have inside := Document.render_begins inner (Text.begins_hookBack tail)
      have notEquals := inside.head?_ne (show isDocumentHead '=' = false by decide)
      have isRead := Document.isRead rules fold inner separated
      obtain ⟨later, writes, settled⟩ := isRead.exists_writes_pair separated rules fold ahead
        (current ▸ reads_hookPrependedFront name.2 notEquals) rfl rfl rfl room
        (reads_hookBack notAngle) (by decide) rfl
      exact ⟨later, writes, fun _ => settled⟩
  | call name arguments =>
      obtain ⟨later, writes, settled⟩ :=
        (Arguments.isRead rules fold arguments separated).exists_writes_pair rules fold ahead
          (by rw [current]; exact reads_macroFront ⟨_, rfl⟩ name.2) rfl rfl rfl room rfl
      exact ⟨later, writes, fun _ => settled⟩

theorem Document.isRead (rules : setting.rules = Rule.ofMode) (fold : setting.fold = true)
    (document : List Piece) (separated : Document.Separated document) :
    Document.IsRead setting document := by
  intro state tail current ahead room follows settled
  cases document with
  | nil => exact ⟨state, .refl state⟩
  | cons piece rest =>
      obtain ⟨pieceSeparated, restSeparated, apart⟩ := separated
      rw [Document.depth] at room
      rw [Document.render, List.append_assoc] at ahead
      obtain ⟨middle, writes, middleSettled⟩ := piece.exists_writes rules fold current ahead
        (by omega) pieceSeparated (Document.render_begins rest follows.document)
        fun plain => ⟨Document.render_followsPlain (apart plain) follows, settled plain⟩
      have restAhead : middle.rest = Document.render rest ++ tail :=
        List.append_cancel_left (writes.rest_eq.symm.trans ahead)
      have restSettled : Document.startsPlain rest = true → middle.pending = [] := by
        intro plain
        apply middleSettled
        by_contra notPlain
        rw [apart (by simpa using notPlain)] at plain
        contradiction
      obtain ⟨later, more⟩ := Document.isRead rules fold rest restSeparated middle tail
        (writes.mode_eq.trans current) restAhead (by rw [writes.frames_eq]; omega) follows
        restSettled
      rw [writes.position_eq, ← Nat.add_assoc] at more
      exact ⟨later, writes.trans more⟩

theorem Argument.exists_writes (rules : setting.rules = Rule.ofMode) (fold : setting.fold = true)
    (argument : Argument) {state : State} {tail : Text} (current : state.mode setting = .expression)
    (ahead : state.rest = argument.render ++ tail)
    (room : state.frames.length + argument.depth ≤ setting.room) (separated : argument.Separated)
    (begins : tail.Begins isArgumentsHead) :
    ∃ later, state.Writes setting argument.render
      [argument.token setting.place (setting.offset + state.position)] later ∧
        later.pending = [] := by
  cases argument with
  | comma => exact State.exists_writes_delimiter rules current ahead reads_comma rfl rfl
  | value name =>
      exact State.exists_writes_delimiter rules current ahead (reads_storyVariable name.2 begins)
        rfl rfl
  | string content => exact Argument.exists_writes_string rules fold current ahead room
  | call name arguments =>
      exact (Arguments.isRead rules fold arguments separated).exists_writes_pair rules fold ahead
        (by rw [current]; exact reads_macroFront ⟨_, rfl⟩ name.2) rfl rfl rfl room rfl
  | group arguments =>
      have inside := Arguments.render_begins arguments (Text.begins_groupingBack tail)
      exact (Arguments.isRead rules fold arguments separated).exists_writes_pair rules fold ahead
        (current ▸ reads_groupingFront inside) rfl rfl rfl room rfl
  | hook inner =>
      have notAngle := begins.head?_ne (show isArgumentsHead '<' = false by decide)
      have inside := Document.render_begins inner (Text.begins_hookBack tail)
      have isRead := Document.isRead rules fold inner separated
      exact isRead.exists_writes_pair separated rules fold ahead (current ▸ reads_hookFront inside)
        rfl rfl rfl room (reads_hookBack notAngle) (by decide) rfl

theorem Arguments.isRead (rules : setting.rules = Rule.ofMode) (fold : setting.fold = true)
    (arguments : List Argument) (separated : Arguments.Separated arguments) :
    Arguments.IsRead setting arguments := by
  intro state tail current ahead room begins
  cases arguments with
  | nil => exact ⟨state, .refl state⟩
  | cons argument rest =>
      obtain ⟨argumentSeparated, restSeparated⟩ := separated
      rw [Arguments.depth] at room
      rw [Arguments.render, List.append_assoc] at ahead
      obtain ⟨middle, writes, _⟩ := argument.exists_writes rules fold current ahead (by omega)
        argumentSeparated (Arguments.render_begins rest begins)
      have restAhead : middle.rest = Arguments.render rest ++ tail :=
        List.append_cancel_left (writes.rest_eq.symm.trans ahead)
      obtain ⟨later, more⟩ := Arguments.isRead rules fold rest restSeparated middle tail
        (writes.mode_eq.trans current) restAhead (by rw [writes.frames_eq]; omega) begins
      rw [writes.position_eq, ← Nat.add_assoc] at more
      exact ⟨later, writes.trans more⟩

end

namespace Lex

/-- A well-nested document that does not nest too deep is lexed into its own tokens: every bracket
and every quote is part of the pair that it was written for. -/
theorem lex_document (options : Options) (document : Document) (prose : options.mode = .prose)
    (fold : options.fold = true) (separated : Document.Separated document)
    (shallow : Document.depth document ≤ options.maxDepth) :
    lex options (Document.render document) =
      root options.place (Document.render document) (Document.forest options.place 0 document) := by
  let setting := readSetting Rule.ofMode options.fold options.place options.maxDepth options.mode
    true 0 (Document.render document)
  have reading : tokenize options 0 0 true (Document.render document) =
      (State.initial (Document.render document)).remaining setting := by
    rw [tokenize, readAt, read_eq]
    rfl
  obtain ⟨final, writes⟩ := @Document.isRead setting rfl fold document separated
    (.initial (Document.render document)) [] prose (List.append_nil _).symm
    ((Nat.zero_add _).trans_le shallow) (.inl rfl) (fun _ => rfl)
  have ended : final.rest = [] := by
    have whole := congrArg List.length writes.rest_eq
    simp only [State.initial, List.length_append] at whole
    exact List.length_eq_zero_iff.mp (by omega)
  have siblings :
      (final.flush setting).siblings.reverse = Document.forest options.place 0 document := by
    rw [writes.siblings_eq]
    simp [State.flush, State.initial, setting, readSetting]
  have outcome : (State.initial (Document.render document)).remaining setting =
      Document.forest options.place 0 document := by
    rw [← writes.remaining_eq, State.remaining_of_ended ended, writes.frames_eq]
    simp only [State.initial, Frame.unwind, siblings]
    exact Document.coalesce_forest separated
  rw [lex, reading, outcome]

theorem call_in_hook_read :
    ∃ document : Document,
      Document.Separated document ∧ Document.depth document = 4 ∧
        Document.render document = "a{}|b>[c (d:$e,([f]),\"g'\")]".toList ∧
        lex {} (Document.render document) =
          root [] (Document.render document) (Document.forest [] 0 document) := by
  let arguments : Arguments :=
    [.value ⟨['e'], List.all_eq_true.mp rfl, List.any_eq_true.mp rfl⟩, .comma,
      .group [.hook [.plain ⟨['f'], by decide, List.all_eq_true.mp rfl⟩]], .comma,
      .string ⟨['g', '\''], by decide⟩]
  let document : Document :=
    [.plain ⟨['a'], by decide, List.all_eq_true.mp rfl⟩, .collapsed [],
      .hook ⟨['b'], by decide, List.all_eq_true.mp rfl⟩
        [.plain ⟨['c', ' '], by decide, List.all_eq_true.mp rfl⟩,
          .call ⟨['d'], by decide, List.all_eq_true.mp rfl⟩ arguments]]
  have separated : Document.Separated document := by
    simp [document, arguments, Document.Separated, Piece.Separated, Arguments.Separated,
      Argument.Separated, Piece.isPlain, Document.startsPlain]
  exact ⟨document, separated, rfl, rfl, lex_document {} document rfl rfl separated (by decide)⟩

end Lex

end PassageMarkup
