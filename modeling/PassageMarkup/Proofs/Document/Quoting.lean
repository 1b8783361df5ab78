import PassageMarkup.Proofs.Rule.Settled
import PassageMarkup.Proofs.Scan.Free
import PassageMarkup.Proofs.Scan.Strings

/-!
# Quoted text

A text is written as a string between quotes, with a backslash before each backslash and each quote
of that kind in it.  Among expressions it is read as that string, unless its first quote is an
apostrophe that belongs to a possessive: then the mark of a property is taken before any string.
-/

namespace PassageMarkup

open Scan

namespace Quote

/-- A text with a backslash before each backslash and each quote. -/
def protect (quote : Quote) (content : Text) : Text :=
  content.flatMap fun c => if quote.isSpecial c then ['\\', c] else [c]

/-- The string in which a text is written. -/
def written (quote : Quote) (content : Text) : Text :=
  [quote.mark] ++ quote.protect content ++ [quote.mark]

/-- The places and texts of the protected characters of a text that is written from `start` on. -/
def escapes (quote : Quote) (start : Nat) : Text → List (Nat × Text)
  | [] => []
  | c :: rest =>
    if quote.isSpecial c then (start, ['\\', c]) :: quote.escapes (start + 2) rest
    else quote.escapes (start + 1) rest

/-- The tokens of a text that is written protected.  It comes after the plain text `run`, which
begins at `start`. -/
def tokens (quote : Quote) (place : Text) (start : Nat) (run : Text) : Text → List Token
  | [] => Token.ofContent place run start
  | c :: rest =>
    if quote.isSpecial c then
      Token.ofContent place run start ++
        .leaf .escapedStringChar (start + run.length) ['\\', c] place ::
          quote.tokens place (start + run.length + 2) [] rest
    else quote.tokens place start (run ++ [c]) rest

variable {quote : Quote} {place run content : Text} {c : Char} {start : Nat}

theorem protect_cons_of_special (special : quote.isSpecial c = true) (rest : Text) :
    quote.protect (c :: rest) = '\\' :: c :: quote.protect rest := by
  simp [protect, special]

theorem protect_cons_of_not_special (ordinary : quote.isSpecial c = false) (rest : Text) :
    quote.protect (c :: rest) = c :: quote.protect rest := by
  simp [protect, ordinary]

theorem textOf_tokens (content : Text) :
    Token.textOf (quote.tokens place start run content) = run ++ quote.protect content := by
  induction content generalizing start run with
  | nil =>
      rw [tokens, Token.textOf_ofContent]
      exact (List.append_nil run).symm
  | cons c rest induction =>
      rw [tokens]
      split
      · rename_i special
        rw [protect_cons_of_special special, Token.textOf, List.flatMap_append, List.flatMap_cons]
        have before := @Token.textOf_ofContent place run start
        have after := @induction [] (start + run.length + 2)
        rw [Token.textOf] at before after
        rw [before, after]
        rfl
      · rename_i ordinary
        rw [protect_cons_of_not_special (by simpa using ordinary), induction, List.append_assoc]
        rfl

/-- The plain texts stand apart, so joining neighbouring texts changes nothing. -/
theorem coalesce_tokens (content : Text) :
    Token.coalesce (quote.tokens place start run content) =
      quote.tokens place start run content := by
  induction content generalizing start run with
  | nil => exact Token.coalesce_ofContent place run start
  | cons c rest induction =>
      rw [tokens]
      split
      · rw [Token.coalesce_append_cons _ _ rfl, Token.coalesce_ofContent, induction]
      · exact induction

theorem escapes_of_tokens (content : Text) :
    ((quote.tokens place start run content).filter (·.kind == .escapedStringChar)).map
        (fun token => (token.start, token.text)) =
      quote.escapes (start + run.length) content := by
  have plain : ∀ run start, (Token.ofContent place run start).filter
      (·.kind == .escapedStringChar) = [] := by
    intro run start
    rw [List.filter_eq_nil_iff]
    intro token member
    simp [Token.kind_of_mem_ofContent member]
  induction content generalizing start run with
  | nil =>
      rw [tokens, plain]
      rfl
  | cons c rest induction =>
      rw [tokens, escapes]
      split
      · rw [List.filter_append, plain, List.nil_append, List.filter_cons_of_pos rfl, List.map_cons,
          induction]
        rfl
      · rw [induction, List.length_append, List.length_singleton, Nat.add_assoc]

theorem kind_of_mem_tokens {token : Token} (content : Text)
    (member : token ∈ quote.tokens place start run content) :
    token.kind = .escapedStringChar ∨ token.kind = .text := by
  induction content generalizing start run with
  | nil => exact .inr (Token.kind_of_mem_ofContent member)
  | cons c rest induction =>
      rw [tokens] at member
      split at member
      · rcases List.mem_append.mp member with before | here
        · exact .inr (Token.kind_of_mem_ofContent before)
        · rcases List.mem_cons.mp here with rfl | after
          · exact .inl rfl
          · exact induction after
      · exact induction member

end Quote

namespace Scan

variable {setting : Setting} {state : State} {quote : Quote} {tail : Text}

/-- Inside a string, protected text is read as it is written. -/
theorem State.exists_writes_protected {frame : Frame} {outer : List Frame}
    (rules : setting.rules = Rule.ofMode) (opens : frame.OpensString quote) (content : Text)
    {run : Text} (frames : state.frames = frame :: outer) (settled : state.pending = [])
    (ordinary : ∀ c ∈ run, quote.isSpecial c = false)
    (ahead : state.rest = run ++ quote.protect content ++ tail) :
    ∃ later, state.Writes setting (run ++ quote.protect content)
      (quote.tokens setting.place (setting.offset + state.position) run content) later := by
  induction content generalizing run state with
  | nil =>
      rw [Quote.tokens]
      have empty : run ++ quote.protect [] = run := List.append_nil run
      rw [empty] at ahead ⊢
      exact exists_writes_content rules frames opens ahead settled ordinary
  | cons c rest induction =>
      cases special : quote.isSpecial c with
      | true =>
          rw [Quote.protect_cons_of_special special] at ahead ⊢
          have runAhead : state.rest = run ++ (['\\', c] ++ (quote.protect rest ++ tail)) := by
            simpa using ahead
          obtain ⟨before, writesRun⟩ :=
            exists_writes_content rules frames opens runAhead settled ordinary
          have escapeAhead : before.rest = ['\\', c] ++ (quote.protect rest ++ tail) :=
            List.append_cancel_left (writesRun.rest_eq.symm.trans runAhead)
          have current : before.mode setting = .string :=
            mode_in_string (writesRun.frames_eq.trans frames) opens
          obtain ⟨after, writesEscape, afterSettled⟩ := exists_writes_delimiter rules current
            escapeAhead (reads_escapedStringChar c) rfl rfl
          have restAhead : after.rest = [] ++ quote.protect rest ++ tail :=
            List.append_cancel_left (writesEscape.rest_eq.symm.trans escapeAhead)
          obtain ⟨later, writesRest⟩ := induction
            (writesEscape.frames_eq.trans (writesRun.frames_eq.trans frames)) afterSettled
            (by simp) restAhead
          have writes := writesRun.trans (writesEscape.trans writesRest)
          rw [writesEscape.position_eq, writesRun.position_eq] at writes
          refine ⟨later, ?_⟩
          rw [Quote.tokens, if_pos special]
          simpa [Nat.add_assoc, Token.delimiter, Token.leaf, Rule.escapedStringChar] using writes
      | false =>
          rw [Quote.protect_cons_of_not_special special] at ahead ⊢
          rw [Quote.tokens, if_neg (by simp [special])]
          have longer : ∀ d ∈ run ++ [c], quote.isSpecial d = false := by
            simpa [or_imp, forall_and, special] using ordinary
          have writes := induction frames settled longer (by simpa using ahead)
          simpa using writes

end Scan

/-- Tells whether a text goes on as a possessive does after its apostrophe: with an s, in either
case, and a blank. -/
def beginsPossessive : Text → Bool
  | c :: d :: _ => Regex.sameAs 's' c && Terminal.isLineBlank d
  | _ => false

theorem exists_of_beginsPossessive {text : Text} (begins : beginsPossessive text = true) :
    ∃ c d rest, text = c :: d :: rest ∧ Regex.sameAs 's' c = true ∧
      Terminal.isLineBlank d = true := by
  unfold beginsPossessive at begins
  split at begins
  · rename_i c d rest
    exact ⟨c, d, rest, rfl, Bool.and_eq_true_iff.mp begins⟩
  · contradiction

theorem beginsPossessive_protect (content tail : Text) :
    beginsPossessive (Quote.single.protect content ++ '\'' :: tail) = beginsPossessive content := by
  have notLetter : ∀ c, Quote.single.isSpecial c = true → Regex.sameAs 's' c = false := by
    intro c special
    rcases Quote.isSpecial_iff.mp special with rfl | rfl <;> decide
  have notBlank : ∀ c, Quote.single.isSpecial c = true → Terminal.isLineBlank c = false := by
    intro c special
    rcases Quote.isSpecial_iff.mp special with rfl | rfl <;> decide
  have backslash : Regex.sameAs 's' '\\' = false ∧ Terminal.isLineBlank '\\' = false := by
    decide
  cases content with
  | nil => cases tail <;> rfl
  | cons c rest =>
      cases first : Quote.single.isSpecial c with
      | true =>
          rw [Quote.protect_cons_of_special first]
          cases rest <;> simp [beginsPossessive, backslash, notLetter c first]
      | false =>
          rw [Quote.protect_cons_of_not_special first]
          cases rest with
          | nil => exact Bool.and_false _
          | cons d more =>
              cases second : Quote.single.isSpecial d with
              | true =>
                  rw [Quote.protect_cons_of_special second]
                  simp [beginsPossessive, backslash, notBlank d second]
              | false =>
                  rw [Quote.protect_cons_of_not_special second]
                  rfl

namespace Rule

variable {tail : Text} {found : Match}

/-- Three rules for expressions begin with an apostrophe, the one for strings last. -/
theorem live_apostrophe :
    live .expression '\'' = [property, possessiveOperator, stringOpener .single] :=
  rfl

theorem beginsPossessive_of_property
    (success : property.pattern.find? ('\'' :: tail) = some found) :
    beginsPossessive tail = true := by
  obtain ⟨splits, denotes⟩ := Pattern.find?_denotes success
  have ahead := splits.remaining_eq
  generalize found.text = taken at denotes ahead
  cases denotes with
  | seq mark others =>
      cases mark with
      | seq apostrophe letter =>
          cases others with
          | seq blanks name =>
              obtain ⟨c, rfl, isLetter⟩ := letter.of_set
              obtain ⟨nonempty, areBlank⟩ := blanks.of_many1
              obtain ⟨d, more, rfl⟩ := List.exists_cons_of_ne_nil nonempty
              rw [apostrophe.of_char (by decide)] at ahead
              obtain ⟨-, rfl⟩ := List.cons_eq_cons.mp ahead
              exact Bool.and_eq_true_iff.mpr ⟨isLetter, areBlank d (by simp)⟩

theorem possessiveOperator_isSome_iff :
    (possessiveOperator.pattern.find? ('\'' :: tail)).isSome = true ↔
      beginsPossessive tail = true := by
  constructor
  · intro success
    obtain ⟨found, success⟩ := Option.isSome_iff_exists.mp success
    obtain ⟨cursor, reached, _, allowed, _⟩ := Pattern.find?_regex_iff.mp success
    obtain ⟨passed, split, _, denotes⟩ := (Regex.matchStart_matches reached).exists_passed
    cases denotes with
    | seq apostrophe letter =>
        obtain ⟨c, rfl, isLetter⟩ := letter.of_set
        rw [apostrophe.of_char (by decide)] at split
        obtain ⟨-, rfl⟩ := List.cons_eq_cons.mp split
        cases following : cursor.rest with
        | nil =>
            rw [following] at allowed
            contradiction
        | cons d more =>
            rw [following] at allowed
            have isBlank : Terminal.isLineBlank d = true := by
              by_contra notBlank
              have unmatched : Terminal.lineBlank.matchStart (d :: more) = none :=
                Regex.matchThen_set_of_rejected (by simpa [Regex.Cursor.atStart] using notBlank)
              simp [Lookahead.allows, unmatched] at allowed
            exact Bool.and_eq_true_iff.mpr ⟨isLetter, isBlank⟩
  · intro begins
    obtain ⟨c, d, more, rfl, isLetter, isBlank⟩ := exists_of_beginsPossessive begins
    let start := Regex.Cursor.atStart ('\'' :: c :: d :: more)
    have reached : Terminal.possessive.matchStart ('\'' :: c :: d :: more) =
        some (start.pass ['\'', c]) := by
      change (Regex.seq (.set (Regex.sameAs '\'')) (.set (Regex.sameAs 's'))).matchThen some
        start = _
      rw [Regex.matchThen,
        @Regex.matchThen_set _ _ _ _ (c :: d :: more) _ rfl (by decide),
        @Regex.matchThen_set _ _ _ _ (d :: more) _ rfl isLetter]
      rfl
    have allowed : (Lookahead.mk Terminal.lineBlank false).allows (d :: more) = true := by
      have matched : Terminal.lineBlank.matchStart (d :: more) =
          some ((Regex.Cursor.atStart (d :: more)).pass [d]) :=
        @Regex.matchThen_set _ _ _ _ more _ rfl isBlank
      simp [Lookahead.allows, matched]
    rw [Option.isSome_iff_exists]
    exact ⟨_, Pattern.find?_regex_iff.mpr ⟨_, reached, by simp, allowed, rfl⟩⟩

end Rule

namespace Scan

variable {setting : Setting} {state : State} {quote : Quote} {tail : Text} {token : Token}

theorem reads_openingQuote (apart : quote = .single → beginsPossessive tail = false) :
    Reads .expression (Rule.stringOpener quote) none [quote.mark] tail := by
  cases quote with
  | single =>
      apply @reads_plain _ _ _ _ [Rule.property, Rule.possessiveOperator] [] rfl rfl
        ⟨rfl, rfl, rfl⟩ Rule.live_apostrophe
      have noPossessive := apart rfl
      rw [List.forall_mem_cons, List.forall_mem_singleton]
      constructor
      · rw [Option.eq_none_iff_forall_ne_some]
        intro found success
        rw [Rule.beginsPossessive_of_property success] at noPossessive
        contradiction
      · rw [← Option.not_isSome_iff_eq_none]
        intro success
        rw [Rule.possessiveOperator_isSome_iff.mp success] at noPossessive
        contradiction
  | double => exact reads_stringOpener

/-- The apostrophe of a possessive is read with its letter, or with the whole property. -/
theorem exists_reads_possessive (begins : beginsPossessive tail = true) :
    ∃ rule name text following, Reads .expression rule name text following ∧
      '\'' :: tail = text ++ following ∧ (rule = Rule.property ∨ rule = Rule.possessiveOperator) := by
  cases property : Rule.property.pattern.find? ('\'' :: tail) with
  | some found =>
      have splits := Pattern.find?_splitsOff property
      refine ⟨_, _, found.text, found.following, ⟨⟨rfl, rfl, rfl⟩, ⟨'\'', tail, [],
        [Rule.possessiveOperator, Rule.stringOpener .single], splits.remaining_eq.symm,
        Rule.live_apostrophe, by simp⟩, found, ?_, rfl, rfl⟩, splits.remaining_eq, .inl rfl⟩
      rw [← splits.remaining_eq]
      exact property
  | none =>
      obtain ⟨found, success⟩ :=
        Option.isSome_iff_exists.mp (Rule.possessiveOperator_isSome_iff.mpr begins)
      have splits := Pattern.find?_splitsOff success
      refine ⟨_, none, found.text, found.following, ⟨⟨rfl, rfl, rfl⟩, ⟨'\'', tail,
        [Rule.property], [Rule.stringOpener .single], splits.remaining_eq.symm,
        Rule.live_apostrophe, ?_⟩, found, ?_, rfl, rfl⟩, splits.remaining_eq, .inr rfl⟩
      · rw [← splits.remaining_eq, List.forall_mem_singleton]
        exact property
      · rw [← splits.remaining_eq]
        exact success

/-- Among expressions, a text written between quotes is read as one string. -/
theorem State.exists_writes_quoted {content : Text} (rules : setting.rules = Rule.ofMode)
    (fold : setting.fold = true) (current : state.mode setting = .expression)
    (ahead : state.rest = quote.written content ++ tail)
    (room : state.frames.length < setting.room)
    (apart : quote = .single → beginsPossessive content = false) :
    ∃ later, state.Writes setting (quote.written content)
      [.ofPair .string none setting.place (setting.offset + state.position) [quote.mark]
        (quote.protect content) [quote.mark]
        fun start => quote.tokens setting.place start [] content] later ∧ later.pending = [] := by
  have opening : Reads .expression (Rule.stringOpener quote) none [quote.mark]
      (quote.protect content ++ ([quote.mark] ++ tail)) := by
    apply reads_openingQuote
    rintro rfl
    exact (beginsPossessive_protect content tail).trans (apart rfl)
  apply exists_writes_pair rules fold ahead (current ▸ opening) rfl rfl rfl room
    (reads_closingQuote quote)
  · cases quote <;> rfl
  · exact fun start => Quote.coalesce_tokens content
  · exact fun start => Quote.textOf_tokens content
  · intro opened opens
    exact @exists_writes_protected setting opened quote _ _ _ rules ⟨rfl, rfl⟩ content []
      opens.frames_eq opens.pending_eq (by simp) opens.rest_eq

/-- A token is the first one of what has been read. -/
def State.StartsWith (token : Token) (state : State) : Prop :=
  [token] <:+ state.siblings ++ Frame.demotedTokens state.frames

theorem State.StartsWith.flush (starts : state.StartsWith token) (setting : Setting) :
    (state.flush setting).StartsWith token := by
  unfold State.flush
  split
  · exact starts
  · exact starts.trans (List.suffix_cons _ _)

theorem State.StartsWith.outside {abandoned outer : List Frame} {frame : Frame}
    (frames : state.frames = abandoned ++ frame :: outer) (starts : state.StartsWith token)
    (notText : token.kind ≠ .text) :
    [token] <:+ frame.before ++ Frame.demotedTokens outer := by
  have inside : frame.front.demote :: (frame.before ++ Frame.demotedTokens outer) <:+
      state.siblings ++ Frame.demotedTokens state.frames := by
    rw [frames]
    exact ⟨state.siblings ++ Frame.demotedTokens abandoned, by simp [Frame.demotedTokens]⟩
  have ends := List.suffix_of_suffix_length_le starts inside (by simp)
  rcases List.suffix_cons_iff.mp ends with whole | outside
  · rw [(List.cons_eq_cons.mp whole).1] at notText
    contradiction
  · exact outside

/-- A first token that is not text stays the first: no pair closes around it. -/
theorem startsWith_kept (fold : setting.fold = true) (notText : token.kind ≠ .text) :
    Kept setting (State.StartsWith token) where
  withEvents := fun _ _ starts => starts
  skipChar := by
    intro state starts
    unfold State.skipChar
    split <;> exact starts
  accept := by
    intro state choice applies starts
    have flushed := starts.flush setting
    rw [State.accept_eq]
    unfold State.add
    split
    · rename_i pairing paired
      rw [applies.pairing_eq] at paired
      simp only [State.close, fold, if_true]
      exact (starts.outside (Frame.pairing?_pairs paired).frames_eq notText).trans
        (List.suffix_cons _ _)
    · split
      · exact flushed.trans (List.suffix_cons _ _)
      · exact flushed.trans (List.suffix_cons _ _)

theorem State.StartsWith.remaining (starts : state.StartsWith token) (fold : setting.fold = true)
    (notText : token.kind ≠ .text) : ∃ rest, state.remaining setting = token :: rest := by
  have final := @Kept.run setting _ state (startsWith_kept fold notText) state.rest.length starts
  obtain ⟨later, split⟩ := final.flush setting
  have plain : token.isPlainText = false := by
    simp [Token.isPlainText, notText]
  refine ⟨Token.coalesce later.reverse, ?_⟩
  rw [State.remaining, State.finish, Frame.unwind_eq, ← split, List.reverse_append]
  exact Token.coalesce_cons_of_not_plain _ plain

/-- A text that begins with a possessive has its mark as the first token. -/
theorem exists_remaining_possessive (rules : setting.rules = Rule.ofMode)
    (fold : setting.fold = true) (current : setting.mode = .expression)
    (begins : beginsPossessive tail = true) :
    ∃ token rest, (State.initial ('\'' :: tail)).remaining setting = token :: rest ∧
      (token.kind = .property ∨ token.kind = .possessiveOperator) := by
  obtain ⟨rule, name, text, following, reads, ahead, possessive⟩ := exists_reads_possessive begins
  have alone : rule.front = false ∧ rule.closes = [] := by
    rcases possessive with rfl | rfl <;> exact ⟨rfl, rfl⟩
  have kind : rule.kind = .property ∨ rule.kind = .possessiveOperator := by
    rcases possessive with rfl | rfl
    · exact .inl rfl
    · exact .inr rfl
  obtain ⟨later, writes, settled⟩ :=
    @State.exists_writes_delimiter setting (.initial ('\'' :: tail)) text following .expression rule
      name rules current ahead reads alone.1 alone.2
  have siblings := writes.siblings_eq
  rw [State.flush, if_pos (by simp [settled])] at siblings
  have starts : later.StartsWith
      (.delimiter rule.kind (setting.offset + 0) text setting.place name) := by
    rw [State.StartsWith, siblings, writes.frames_eq]
    exact List.suffix_refl _
  have notText : rule.kind ≠ .text := by
    rcases possessive with rfl | rfl <;> decide
  obtain ⟨rest, remaining⟩ := starts.remaining fold notText
  exact ⟨_, rest, writes.remaining_eq.symm.trans remaining, kind⟩

end Scan

/-- A token is the string in which a text is written. -/
structure Token.Quotes (quote : Quote) (content : Text) (token : Token) : Prop where
  kind_eq : token.kind = .string
  inner_eq : token.inner = quote.protect content
  escapes_eq : (token.children.filter (·.kind == .escapedStringChar)).map
    (fun child => (child.start, child.text)) = quote.escapes 1 content
  others : ∀ child ∈ token.children, child.kind = .escapedStringChar ∨ child.kind = .text

namespace Lex

/-- A text is lexed as a string in which it is protected exactly when its quote is not the
apostrophe of a possessive. -/
theorem written_read_iff (place : Text) (quote : Quote) (content : Text) :
    (∃ string, (lex { place, mode := .expression } (quote.written content)).children = [string] ∧
        string.Quotes quote content) ↔
      ¬(quote = .single ∧ beginsPossessive content = true) := by
  let setting := readSetting Rule.ofMode true place 128 .expression true 0 (quote.written content)
  let start := State.initial (quote.written content)
  have reading : (lex { place, mode := .expression } (quote.written content)).children =
      start.remaining setting := by
    rw [lex, root, tokenize, readAt, read_eq]
    rfl
  rw [reading]
  constructor
  · rintro ⟨string, single, quotes⟩ ⟨rfl, begins⟩
    rw [← beginsPossessive_protect content []] at begins
    obtain ⟨token, rest, remaining, kind⟩ :=
      @exists_remaining_possessive setting _ rfl rfl rfl begins
    have first := single.symm.trans remaining
    rw [← (List.cons_eq_cons.mp first).1, quotes.kind_eq] at kind
    rcases kind with kind | kind <;> contradiction
  · intro apart
    have apart : quote = .single → beginsPossessive content = false := by
      intro single
      simpa [single] using apart
    obtain ⟨later, writes, settled⟩ := @State.exists_writes_quoted setting start quote [] content
      rfl rfl rfl (List.append_nil _).symm (Nat.zero_lt_succ _) apart
    have ended : later.rest = [] := by
      have whole := congrArg List.length writes.rest_eq
      simp only [start, State.initial, List.length_append] at whole
      exact List.length_eq_zero_iff.mp (by omega)
    rw [← writes.remaining_eq, State.remaining_of_ended ended, writes.frames_eq, Frame.unwind_eq,
      writes.siblings_eq]
    refine ⟨_, rfl, rfl, rfl, Quote.escapes_of_tokens content, ?_⟩
    intro child member
    exact Quote.kind_of_mem_tokens content member

theorem possessive_not_read_as_string :
    ¬∃ string, (lex { mode := .expression } (Quote.single.written "s x".toList)).children =
      [string] ∧ string.Quotes .single "s x".toList := by
  rintro ⟨string, single, quotes⟩
  have count : (lex { mode := .expression } (Quote.single.written "s x".toList)).children.length =
      2 := by
    decide
  rw [single] at count
  simp at count

end Lex

end PassageMarkup
