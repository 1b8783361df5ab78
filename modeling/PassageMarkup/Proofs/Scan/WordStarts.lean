import PassageMarkup.Proofs.Rule.Ending
import PassageMarkup.Proofs.Rule.Settled
import PassageMarkup.Proofs.Scan.Errors
import PassageMarkup.Proofs.Scan.FrontStack
import PassageMarkup.Proofs.Scan.Lines
import PassageMarkup.Proofs.Scan.Origin
import PassageMarkup.Proofs.Token.WordStarts

/-!
# Words begin where words begin

A keyword or a literal is never read in the middle of a word, except right behind a number.  The
rules for words only see that no text is pending, so this rests on where all other tokens end before
an expression goes on: beside no name, unless they are numbers.
-/

namespace PassageMarkup

/-- The last characters of the delimiters that are no marks of emphasis. -/
def delimiterEnds : Text :=
  ['\x60', '[', ']', '|', '\x7b', '\x7d', '(', ')', ':', '\x27', '\x22']

theorem not_isWord_of_mem_delimiterEnds {c : Char} (listed : c ∈ delimiterEnds) :
    Unicode.isWord c = false := by
  have table : (delimiterEnds.all fun c => !Unicode.isWord c) = true := by decide +kernel
  simpa using List.all_eq_true.mp table c listed

theorem Opens.exists_getLast? {kind : Kind} {arity : Nat} {name : Option Text} {text : Text}
    (opens : Opens kind arity name text) :
    (∃ emphasis, kind = .emphasis emphasis) ∨ ∃ c ∈ delimiterEnds, text.getLast? = some c := by
  cases opens with
  | emphasis emphasis => exact .inl ⟨emphasis, rfl⟩
  | string quote => cases quote <;> exact .inr ⟨_, by decide, rfl⟩
  | verbatim length => exact .inr ⟨'\x60', by decide, by simp [List.replicate_succ']⟩
  | namedHook => exact .inr ⟨'[', by decide, by simp [List.getLast?_cons]⟩
  | macroCall => exact .inr ⟨':', by decide, by simp [List.getLast?_cons]⟩
  | _ => exact .inr ⟨_, by decide, rfl⟩

theorem Closes.exists_getLast? {back front pair : Kind} {arity : Nat} {name : Option Text}
    {text : Text} (closes : Closes back front pair arity name text) :
    (∃ emphasis, front = .emphasis emphasis) ∨ ∃ c ∈ delimiterEnds, text.getLast? = some c := by
  cases closes with
  | emphasis emphasis => exact .inl ⟨emphasis, rfl⟩
  | string quote => cases quote <;> exact .inr ⟨_, by decide, rfl⟩
  | verbatim length => exact .inr ⟨'\x60', by decide, by simp [List.replicate_succ']⟩
  | hookNamed => exact .inr ⟨'|', by decide, by simp [List.getLast?_cons]⟩
  | _ => exact .inr ⟨_, by decide, rfl⟩

namespace Rule

variable {mode : Mode} {rule : Rule} {emphasis : Emphasis}

theorem prose_of_emphasis (member : rule ∈ ofMode mode) (mark : rule.kind = .emphasis emphasis) :
    mode = .prose ∧ rule.innerMode = some .prose := by
  have table : ∀ rule ∈ ofMode mode, rule.kind = .emphasis emphasis →
      mode = .prose ∧ rule.innerMode = some .prose := by
    cases mode <;> cases emphasis <;> decide
  exact table rule member mark

theorem length_lexeme_of_expression (member : rule ∈ expression) (found : Match) :
    (rule.lexeme found).length = found.text.length := by
  fin_cases member
  all_goals first
    | rfl
    | exact Lexeme.withInner_length _ _

theorem of_word (member : rule ∈ words ++ keywords) :
    rule.cannotFollowText = true ∧ rule.front = false ∧ rule.closes = [] := by
  have table : ∀ rule ∈ words ++ keywords,
      rule.cannotFollowText = true ∧ rule.front = false ∧ rule.closes = [] := by
    decide
  exact table rule member

theorem mem_words_of_kind (member : rule ∈ ofMode mode) (isWord : rule.kind ∈ wordKinds) :
    mode = .expression ∧ rule ∈ words ++ keywords := by
  have table : ∀ rule ∈ ofMode mode, rule.kind ∈ wordKinds → mode = .expression := by
    cases mode <;> decide
  have others : ∀ list : List Rule, (∀ rule ∈ list, rule.kind ∉ wordKinds) → rule ∉ list :=
    fun _ apart listed => apart rule listed isWord
  cases table rule member isWord
  refine ⟨rfl, ?_⟩
  rw [ofMode, expression] at member
  simp only [List.mem_append] at member ⊢
  rcases member with ((((first | word) | keyword) | wrong) | operator) | quote
  · exact absurd first (others _ (by decide))
  · exact .inl word
  · exact .inr keyword
  · exact absurd wrong (others _ (by decide))
  · exact absurd operator (others _ (by decide))
  · exact absurd quote (others _ (by decide))

theorem not_word_of_delimiter (member : rule ∈ ofMode mode)
    (delimits : rule.front = true ∨ rule.closes ≠ []) : rule.kind ∉ wordKinds := by
  intro isWord
  obtain ⟨_, notFront, closesNothing⟩ := of_word (mem_words_of_kind member isWord).2
  rcases delimits with isFront | closes
  · rw [notFront] at isFront
    contradiction
  · contradiction

end Rule

namespace Scan

open Token

variable {source : Text} {setting : Setting} {length : Nat} {state : State} {choice : Choice}
  {pairing : Pairing}

namespace Choice.Applies

variable {c : Char}

theorem not_isWord_of_closing (applies : choice.Applies setting state)
    (rules : setting.rules = Rule.ofMode) (stacked : state.Stacked setting)
    (paired : choice.pairing = some pairing)
    (outside : Frame.modeInside setting.mode pairing.outer = .expression)
    (last : (choice.consumed state).getLast? = some c) : Unicode.isWord c = false := by
  have pairs := applies.pairs paired
  unfold State.Stacked at stacked
  rw [pairs.frames_eq] at stacked
  cases stacked.of_append with
  | cons _ opened _ =>
      obtain ⟨name, back⟩ := applies.closes_text rules paired opened.rule_mem opened.kind_eq
      rw [← choice.token_text setting] at last
      rcases back.exists_getLast? with ⟨emphasis, mark⟩ | ⟨d, listed, same⟩
      · rw [opened.kind_eq] at mark
        have prose := (Rule.prose_of_emphasis opened.rule_mem mark).1
        rw [outside] at prose
        contradiction
      · cases same.symm.trans last
        exact not_isWord_of_mem_delimiterEnds listed

theorem not_isWord_of_opening (applies : choice.Applies setting state)
    (rules : setting.rules = Rule.ofMode) (isFront : choice.rule.front = true)
    (inside : choice.rule.innerMode = some .expression)
    (last : (choice.consumed state).getLast? = some c) : Unicode.isWord c = false := by
  obtain ⟨name, text, token, opens⟩ := applies.token_front rules isFront
  rw [← choice.token_text setting, token] at last
  rcases opens.exists_getLast? with ⟨emphasis, mark⟩ | ⟨d, listed, same⟩
  · have prose := (Rule.prose_of_emphasis (applies.rule_mem_ofMode rules) mark).2
    rw [inside] at prose
    contradiction
  · cases same.symm.trans last
    exact not_isWord_of_mem_delimiterEnds listed

/-- What is taken by itself in an expression and ends like a word is a number, or no name goes on
behind it. -/
theorem number_or_of_alone (applies : choice.Applies setting state)
    (rules : setting.rules = Rule.ofMode) (mode : state.mode setting = .expression)
    (notFront : choice.rule.front = false) (closesNothing : choice.rule.closes = [])
    (last : (choice.consumed state).getLast? = some c) (before : Unicode.isWord c = true) :
    choice.rule.kind = .number ∨
      ∀ d, (state.rest.drop choice.lexeme.length).head? = some d → Unicode.isWord d = true →
        Terminal.isNameChar d = false := by
  have member := applies.rule_mem_ofMode rules
  rw [mode] at member
  obtain ⟨found, success, lexeme⟩ := applies.found
  have whole := Rule.length_lexeme_of_expression member found
  rw [← lexeme] at whole
  rcases Rule.partsNames_or member notFront closesNothing with isNumber | parts
  · exact .inl isNumber
  · right
    intro d head after
    rw [Choice.consumed_eq success whole] at last
    rw [whole, (Pattern.find?_splitsOff success).remaining_eq, List.drop_left] at head
    exact parts.apart success last head before after

end Choice.Applies

/-- Where an expression goes on inside a word, with nothing pending, a number was read last. -/
def State.AfterNumber (source : Text) (setting : Setting) (state : State) : Prop :=
  state.pending = [] → state.mode setting = .expression →
    source.SplitsWord (setting.offset + state.position) →
      ∀ c, state.rest.head? = some c → Terminal.isNameChar c = true →
        ∃ number, state.siblings.head? = some number ∧ number.kind = .number

/-- What is known of the words that a scan has read: the lists of neighbours are guarded, and so is
the place that the scan has come to. -/
structure State.GuardsWords (source : Text) (setting : Setting) (length : Nat) (state : State) :
    Prop where
  covers : ∃ covered, state.Covers source setting length covered
  stacked : state.Stacked setting
  siblings : Guarded source state.siblings.reverse
  before : ∀ frame ∈ state.frames, Guarded source frame.before.reverse
  here : state.AfterNumber source setting

/-- After every token but a number, an expression does not go on with a name inside a word. -/
theorem Choice.Applies.afterNumber (applies : choice.Applies setting state)
    (rules : setting.rules = Rule.ofMode) (stacked : state.Stacked setting)
    (stands : source.Stands (setting.offset + state.position) state.rest) :
    (state.accept setting choice).AfterNumber source setting := by
  intro _ mode splits d head nameChar
  have nonempty : choice.consumed state ≠ [] := by
    rw [← List.length_pos_iff, applies.length_consumed]
    exact applies.length_pos
  obtain ⟨others, c, taken⟩ := (List.eq_nil_or_concat' _).resolve_left nonempty
  have last : (choice.consumed state).getLast? = some c := by
    rw [taken, List.getLast?_concat]
  rw [← List.take_append_drop choice.lexeme.length state.rest, Text.stands_append] at stands
  obtain ⟨here, next⟩ := stands
  have place : setting.offset + (state.accept setting choice).position =
      setting.offset + state.position + (choice.consumed state).length := by
    rw [State.accept_eq, State.add_position, applies.length_consumed, Nat.add_assoc]
    rfl
  rw [place] at splits
  rw [State.accept_rest] at head
  have before := splits.isWord_getLast here last
  have after := splits.isWord_head next head
  have inside : Frame.modeInside setting.mode (state.accept setting choice).frames = .expression :=
    mode
  rw [State.accept_eq, State.add] at inside ⊢
  split at inside
  · rename_i pairing paired
    rw [applies.not_isWord_of_closing rules stacked paired inside last] at before
    contradiction
  · rename_i unpaired
    rcases applies.unpaired unpaired with ⟨isFront, _⟩ | ⟨notFront, closesNothing⟩
    · rw [if_pos isFront] at inside
      obtain ⟨current, innerMode⟩ := Rule.front_innerMode (applies.rule_mem_ofMode rules) isFront
      have same : current = .expression := by
        simpa [Frame.modeInside, innerMode] using inside
      rw [same] at innerMode
      rw [applies.not_isWord_of_opening rules isFront innerMode last] at before
      contradiction
    · rw [if_neg (by simp [notFront])] at inside ⊢
      rw [State.advance_frames] at inside
      rcases applies.number_or_of_alone rules inside notFront closesNothing last before with
        isNumber | parts
      · exact ⟨choice.token setting state, rfl, (choice.token_kind setting state).trans isNumber⟩
      · rw [parts d head after] at nameChar
        contradiction

theorem guarded_flush (guarded : Guarded source state.siblings.reverse) :
    Guarded source (state.flush setting).siblings.reverse := by
  unfold State.flush
  split
  · exact guarded
  · rw [List.reverse_cons]
    exact guarded.append (.of_text rfl)

theorem guarded_unwind {siblings : List Token} {frames : List Frame}
    (guarded : Guarded source siblings.reverse)
    (before : ∀ frame ∈ frames, Guarded source frame.before.reverse) :
    Guarded source (Frame.unwind siblings frames).reverse := by
  induction frames generalizing siblings with
  | nil => exact guarded
  | cons frame outer induction =>
      rw [List.forall_mem_cons] at before
      refine induction ?_ before.2
      rw [List.reverse_append, List.reverse_cons]
      exact (before.1.append (.of_text rfl)).append guarded

namespace State.GuardsWords

theorem exists_number (guards : state.GuardsWords source setting length)
    (rules : setting.rules = Rule.ofMode) (applies : choice.Applies setting state)
    (cuts : (choice.token setting state).CutsWord source) :
    ∃ number, (state.flush setting).siblings.reverse.getLast? = some number ∧
      number.kind = .number := by
  obtain ⟨isWord, splits⟩ := cuts
  rw [choice.token_kind] at isWord
  rw [choice.token_start] at splits
  obtain ⟨mode, word⟩ := Rule.mem_words_of_kind (applies.rule_mem_ofMode rules) isWord
  obtain ⟨found, success, _⟩ := applies.found
  obtain ⟨covered, covers⟩ := guards.covers
  have flushed : state.pending = [] := by
    have admitted := applies.admitted
    rw [State.admits, (Rule.of_word word).1] at admitted
    simp only [Bool.and_eq_true, Bool.not_true, Bool.false_or, List.isEmpty_iff] at admitted
    exact admitted.1.2
  obtain ⟨c, rest, ahead⟩ := List.exists_cons_of_ne_nil applies.rest_ne_nil
  have head : state.rest.head? = some c := by
    rw [ahead, List.head?_cons]
  have nameChar : Terminal.isNameChar c = true := by
    have inWord := splits.isWord_head covers.stands_rest head
    obtain ⟨splitsOff, denotes⟩ := Pattern.find?_denotes success
    have begins := denotes.starts_of_head (splitsOff.head?_eq ahead)
    have leads := (Rule.leads_of_word word).of_starts begins
    rw [Terminal.partsFromName, inWord, Bool.not_true, Bool.or_false] at leads
    exact leads
  obtain ⟨number, last, isNumber⟩ := guards.here flushed mode splits c head nameChar
  refine ⟨number, ?_, isNumber⟩
  rw [State.flush, flushed, List.getLast?_reverse]
  exact last

theorem of_delimiter (rules : setting.rules = Rule.ofMode) (applies : choice.Applies setting state)
    (delimits : choice.rule.front = true ∨ choice.rule.closes ≠ []) :
    Guarded source [choice.token setting state] := by
  apply Guarded.singleton
  rintro ⟨isWord, _⟩
  rw [choice.token_kind] at isWord
  exact Rule.not_word_of_delimiter (applies.rule_mem_ofMode rules) delimits isWord

theorem between (guards : state.GuardsWords source setting length)
    (applies : choice.Applies setting state) (paired : choice.pairing = some pairing) :
    Guarded source (Frame.unwind (state.flush setting).siblings pairing.abandoned).reverse := by
  apply guarded_unwind (guarded_flush guards.siblings)
  intro frame abandoned
  apply guards.before
  rw [(applies.pairs paired).frames_eq]
  exact List.mem_append_left _ abandoned

theorem close (guards : state.GuardsWords source setting length)
    (rules : setting.rules = Rule.ofMode) (applies : choice.Applies setting state)
    (paired : choice.pairing = some pairing) :
    Guarded source
      ((state.advance setting choice).close setting (choice.token setting state)
        pairing).siblings.reverse := by
  have pairs := applies.pairs paired
  have open_ : pairing.frame ∈ state.frames := by
    rw [pairs.frames_eq]
    exact List.mem_append_right _ List.mem_cons_self
  have before := guards.before pairing.frame open_
  unfold State.close
  simp only
  split
  · rw [List.reverse_cons]
    apply before.append
    apply Guarded.singleton
    rintro ⟨isWord, _⟩
    have apart : ∀ kind ∈ Rule.wordKinds, kind.isPair = false := by decide
    have isPair := applies.pair_isPair rules paired
    rw [foldPair_kind] at isWord
    rw [apart _ isWord] at isPair
    contradiction
  · have front : Guarded source [pairing.frame.front] := by
      obtain ⟨member, isFront, kind⟩ := guards.stacked.laws.opened _ _ _ pairs.frames_eq
      apply Guarded.singleton
      rintro ⟨isWord, _⟩
      rw [kind] at isWord
      exact Rule.not_word_of_delimiter member (.inl isFront) isWord
    have back : Guarded source [choice.token setting state] :=
      of_delimiter rules applies (.inr (applies.closes_ne_nil paired))
    have whole := ((before.append front).append (guards.between applies paired)).append back
    simpa [State.advance] using whole

theorem accept (guards : state.GuardsWords source setting length)
    (rules : setting.rules = Rule.ofMode) (reads : setting.ReadsInner source)
    (applies : choice.Applies setting state) :
    (state.accept setting choice).GuardsWords source setting length := by
  obtain ⟨covered, covers⟩ := guards.covers
  have flushed : Guarded source (state.flush setting).siblings.reverse :=
    guarded_flush guards.siblings
  have neighbours : Guarded source (state.accept setting choice).siblings.reverse ∧
      ∀ frame ∈ (state.accept setting choice).frames, Guarded source frame.before.reverse := by
    rw [State.accept_eq, State.add]
    split
    · rename_i pairing paired
      refine ⟨guards.close rules applies paired, ?_⟩
      intro frame open_
      apply guards.before
      rw [(applies.pairs paired).frames_eq]
      exact List.mem_append_right _ (List.mem_cons_of_mem _ open_)
    · split
      · refine ⟨.nil, ?_⟩
        rw [List.forall_mem_cons, State.advance_frames]
        exact ⟨flushed, guards.before⟩
      · rw [State.advance_frames]
        refine ⟨?_, guards.before⟩
        rw [List.reverse_cons]
        exact flushed.concat (guards.exists_number rules applies)
  exact ⟨covers.accept rules reads applies, guards.stacked.accept rules applies, neighbours.1,
    neighbours.2, applies.afterNumber rules guards.stacked covers.stands_rest⟩

theorem skipChar (guards : state.GuardsWords source setting length) :
    state.skipChar.GuardsWords source setting length := by
  obtain ⟨covered, covers⟩ := guards.covers
  have further := covers.skipChar
  unfold State.skipChar at further ⊢
  split
  · exact guards
  · rename_i c rest ahead
    rw [ahead] at further
    exact ⟨⟨covered, further⟩, guards.stacked, guards.siblings, guards.before, nofun⟩

end State.GuardsWords

theorem guardsWords_kept (rules : setting.rules = Rule.ofMode) (reads : setting.ReadsInner source) :
    Kept setting (State.GuardsWords source setting length) where
  withEvents := fun _ _ guards =>
    ⟨(covers_kept rules reads).withEvents _ _ guards.covers, guards.stacked, guards.siblings,
      guards.before, guards.here⟩
  skipChar := fun _ guards => guards.skipChar
  accept := fun _ _ applies guards => guards.accept rules reads applies

/-- The tokens of a list are guarded, and so are the children of every token below. -/
def GuardedBelow (source : Text) (tokens : List Token) : Prop :=
  Guarded source tokens ∧ ∀ token ∈ tokens, token.Everywhere (GuardsChildren source)

/-- The readings of inner texts in prose guard words. -/
def Setting.ReadsGuarded (source : Text) (setting : Setting) : Prop :=
  setting.ReadsInto fun mode offset inner outcome => mode = .prose → source.Stands offset inner →
    GuardedBelow source outcome.tokens

theorem Choice.Applies.token_guarded (applies : choice.Applies setting state)
    (rules : setting.rules = Rule.ofMode) (reads : setting.ReadsGuarded source)
    (stands : source.Stands (setting.offset + state.position) state.rest) :
    (choice.token setting state).Everywhere (GuardsChildren source) := by
  rcases applies.marks_or rules with ⟨span, marks⟩ | ⟨_, childless⟩
  · rw [everywhere_iff, GuardsChildren, marks.children_eq]
    apply reads.readInner
    · intro _ _
      rw [GuardedBelow, List.forall_mem_singleton]
      exact ⟨.of_text rfl, everywhere_guardsChildren rfl⟩
    · rw [marks.prose]
      rfl
    · rw [← List.take_append_drop choice.lexeme.length state.rest, Text.stands_append] at stands
      apply stands.1.slice
      have nonempty := marks.nonempty
      have bounded := marks.bounded
      exact Nat.le_trans (Nat.le_of_lt nonempty) bounded
  · exact everywhere_guardsChildren childless

theorem guarded_gives (rules : setting.rules = Rule.ofMode) (readsInner : setting.ReadsInner source)
    (reads : setting.ReadsGuarded source) :
    Gives setting (State.GuardsWords source setting length) (Everywhere (GuardsChildren source)) where
  kept := guardsWords_kept rules readsInner
  plain := fun _ _ childless => everywhere_guardsChildren childless
  token := by
    intro state choice applies guards _
    obtain ⟨covered, covers⟩ := guards.covers
    exact applies.token_guarded rules reads covers.stands_rest
  pair := by
    intro state choice pairing _ applies paired guards children
    rw [everywhere_iff, foldPair_children]
    exact ⟨(guards.between applies paired).coalesce, children⟩

theorem State.GuardsWords.finish (guards : state.GuardsWords source setting length) :
    Guarded source (state.finish setting).tokens := by
  apply Guarded.coalesce
  apply guarded_unwind (guarded_flush guards.siblings)
  rw [flush_frames]
  exact guards.before

theorem scanText_guarded {text : Text} (rules : setting.rules = Rule.ofMode)
    (readsInner : setting.ReadsInner source) (reads : setting.ReadsGuarded source)
    (stands : source.Stands setting.offset text)
    (whole : setting.mode = .expression → ¬source.SplitsWord setting.offset) :
    GuardedBelow source (scanText setting text).tokens := by
  have initial : (State.initial text).GuardsWords source setting text.length := by
    refine ⟨⟨setting.offset, .initial stands⟩, .nil, .nil, ?_, ?_⟩
    · simp [State.initial]
    · intro _ mode splits
      exact absurd splits (whole mode)
  constructor
  · obtain ⟨final, guards, _, equal⟩ := (guardsWords_kept rules readsInner).scanText initial
    rw [equal]
    exact guards.finish
  · exact (guarded_gives rules readsInner reads).scanText initial

theorem read_guarded (fold : Bool) (place : Text) (room : Nat) (mode : Mode) (beginsLine : Bool)
    {offset : Nat} {text : Text} (stands : source.Stands offset text)
    (whole : mode = .expression → ¬source.SplitsWord offset) :
    GuardedBelow source (read Rule.ofMode fold place room mode beginsLine offset text).tokens := by
  refine read_induction
    (fun mode offset text outcome => source.Stands offset text →
      (mode = .expression → ¬source.SplitsWord offset) → GuardedBelow source outcome.tokens)
    ?_ room mode beginsLine offset text stands whole
  intro room mode beginsLine offset text reads stands whole
  refine scanText_guarded rfl
    (readSetting_readsInner source fold place room mode beginsLine offset text) ?_ stands whole
  rintro read present _ innerOffset inner rfl standsInner
  exact reads read present .prose innerOffset inner standsInner nofun

end Scan

namespace Lex

open Token

theorem lex_guardsChildren (options : Options) (source : Text) :
    (lex options source).Everywhere (GuardsChildren source) := by
  rw [everywhere_iff]
  apply Scan.read_guarded options.fold options.place _ options.mode true (Text.stands_self source)
  rintro _ ⟨positive, _⟩
  contradiction

/-- A keyword or a literal begins inside a word only right after a number: the only token that ends
there is one. -/
theorem words_begin_words (options : Options) (source : Text) {token : Token}
    (isNode : token ∈ (lex options source).nodes) (isWord : token.kind ∈ Rule.wordKinds)
    (splits : source.SplitsWord token.start) :
    ∃ number ∈ (lex options source).nodes, number.kind = .number ∧ number.stop = token.start ∧
      ∀ node ∈ (lex options source).nodes, node.stop = token.start → node = number := by
  have below : token ∈ nodesList (lex options source).children := by
    rcases mem_nodes.mp isNode with rfl | below
    · have notWord : Kind.root ∉ Rule.wordKinds := by decide
      exact absurd isWord notWord
    · exact below
  obtain ⟨parent, isParent, member⟩ := exists_parent below
  obtain ⟨before, number, after, neighbours, isNumber⟩ :=
    lex_guardsChildren options source parent isParent token member ⟨isWord, splits⟩
  have encloses := lex_encloses options source
  have numberBelow : number ∈ nodesList (lex options source).children :=
    mem_nodesList_of_child isParent (by simp [neighbours])
  have numberNode : number ∈ (lex options source).nodes := mem_nodes_of_below numberBelow
  have childless : number.children = [] := by
    have single : number.kind ≠ .root ∧ number.kind ≠ .text ∧ number.kind.isPair = false := by
      rw [isNumber]
      decide
    obtain ⟨reading, _, takes⟩ := exists_takes numberNode single
    apply takes.childless
    rw [isNumber]
    rfl
  obtain ⟨first, last, laid, _⟩ := encloses.everywhere parent isParent
  rw [neighbours] at laid
  obtain ⟨_, _, _, _, start, _⟩ := laid_append.mp laid
  refine ⟨number, numberNode, isNumber, start.symm, ?_⟩
  intro node isNode stop
  exact encloses.eq_of_stop_eq (fun _ => start_lt_stop_of_below) isParent neighbours childless
    isNode stop

theorem keyword_after_number :
    ∃ token ∈ (lex { mode := .expression } "1to".toList).nodes, token.kind = .keyword .to_ ∧
      token.kind ∈ Rule.wordKinds ∧ Text.SplitsWord "1to".toList token.start ∧
      ∃ number ∈ (lex { mode := .expression } "1to".toList).nodes, number.kind = .number ∧
        number.stop = token.start := by
  have found : ∃ token ∈ (lex { mode := .expression } "1to".toList).nodes,
      token.kind = .keyword .to_ ∧ token.start = 1 := by
    decide +kernel
  obtain ⟨token, isNode, isKeyword, start⟩ := found
  have isWord : token.kind ∈ Rule.wordKinds := by
    rw [isKeyword]
    decide
  have splits : Text.SplitsWord "1to".toList token.start := by
    rw [start]
    decide +kernel
  obtain ⟨number, isNumberNode, isNumber, stop, _⟩ :=
    words_begin_words { mode := .expression } "1to".toList isNode isWord splits
  exact ⟨token, isNode, isKeyword, isWord, splits, number, isNumberNode, isNumber, stop⟩

end Lex

end PassageMarkup
