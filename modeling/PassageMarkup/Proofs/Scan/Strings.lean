import PassageMarkup.Proofs.Document.Delimiters
import PassageMarkup.Proofs.Document.Parts

/-!
# Reading the inside of strings

Inside a string a rule takes a backslash with the character after it, and another takes the quote
that ends the string.  Every other character stays text, the other quote included: the search for
its front stops at the front of the string.
-/

namespace PassageMarkup

def Quote.mark : Quote → Char
  | single => '\''
  | double => '"'

theorem Rule.quoteText_eq (quote : Quote) : quoteText quote = [quote.mark] := by
  cases quote <;> rfl

theorem Quote.mark_caseless (quote : Quote) : Regex.isCaseless quote.mark = true := by
  cases quote <;> decide

/-- Tells whether a character has a meaning of its own inside a string. -/
def Quote.isSpecial (quote : Quote) (c : Char) : Bool :=
  c == '\\' || c == quote.mark

theorem Quote.isSpecial_iff {quote : Quote} {c : Char} :
    quote.isSpecial c = true ↔ c = '\\' ∨ c = quote.mark := by
  simp [isSpecial]

namespace Scan

variable {setting : Setting} {state : State} {quote other : Quote} {tail : Text}

/-- An open front of a string. -/
structure Frame.OpensString (quote : Quote) (frame : Frame) : Prop where
  rule_eq : frame.rule = Rule.stringOpener quote
  kind_eq : frame.front.kind = .stringOpener quote

/-- A quote closes nothing in a string in the other quotes: the search for its front stops. -/
theorem Frame.pairing?_otherQuote (differ : other ≠ quote) {frame : Frame}
    (opens : frame.OpensString quote) (outer : List Frame) (arity : Nat) :
    pairing? (Rule.stringCloser other) arity (frame :: outer) = none := by
  have aka : frame.rule.aka = none := by
    rw [opens.rule_eq]
    rfl
  have unresolved : (Rule.stringCloser other).resolves (.stringOpener quote) none frame.arity
      arity = none := by
    simp [Rule.resolves, Rule.stringCloser, differ]
  rw [pairing?, opens.kind_eq, aka, unresolved]
  cases quote <;> rfl

theorem State.mode_in_string {frame : Frame} {outer : List Frame}
    (frames : state.frames = frame :: outer) (opens : frame.OpensString quote) :
    state.mode setting = .string := by
  simp [State.mode, frames, opens.rule_eq, Rule.stringOpener]

/-- Inside a string no rule takes a character other than its quote and a backslash. -/
theorem State.choice?_eq_none_in_string {frame : Frame} {outer : List Frame} {c : Char}
    {rest : Text} (rules : setting.rules = Rule.ofMode) (ahead : state.rest = c :: rest)
    (ordinary : quote.isSpecial c = false) (frames : state.frames = frame :: outer)
    (opens : frame.OpensString quote) : state.choice? setting = none := by
  have notSpecial : c ≠ '\\' ∧ c ≠ quote.mark := by
    simpa [Quote.isSpecial] using ordinary
  obtain ⟨notBackslash, notMark⟩ := notSpecial
  have differs : ∀ d, Regex.isCaseless d = true → c ≠ d → Regex.sameAs d c = false := by
    intro d caseless differ
    rw [Bool.eq_false_iff]
    exact fun same => differ (Regex.eq_of_sameAs caseless same)
  have skips : ∀ rule : Rule, rule.pattern.toRegex.starts c = false →
      state.judge setting rule = .skip := by
    intro rule cannot
    apply judge_eq_skip
    rw [ahead]
    exact Pattern.find?_eq_none_of_starts cannot
  apply choice?_eq_none rules
  rw [mode_in_string frames opens, Rule.ofMode, Rule.string, List.forall_mem_cons]
  constructor
  · exact skips _ ((Bool.or_false _).trans (differs '\\' (by decide) notBackslash))
  · intro rule member
    obtain ⟨closing, _, rfl⟩ := List.mem_map.mp member
    by_cases same : closing = quote
    · rw [same]
      apply skips
      rw [Rule.stringCloser, Rule.quoteText_eq]
      exact (Bool.or_false _).trans (differs quote.mark quote.mark_caseless notMark)
    · apply judge_eq_skip_of_unpaired rfl (by simp [Rule.stringCloser])
      rw [frames]
      exact Frame.pairing?_otherQuote same opens outer

theorem State.exists_writes_content {frame : Frame} {outer : List Frame} {text : Text}
    (rules : setting.rules = Rule.ofMode) (frames : state.frames = frame :: outer)
    (opens : frame.OpensString quote) (ahead : state.rest = text ++ tail)
    (settled : state.pending = []) (ordinary : ∀ c ∈ text, quote.isSpecial c = false) :
    ∃ later, state.Writes setting text
      (Token.ofContent setting.place text (setting.offset + state.position)) later := by
  unfold Token.ofContent
  split
  · rename_i empty
    rw [empty]
    exact ⟨state, .refl state⟩
  · rename_i nonempty
    apply exists_writes_text ahead nonempty settled
    intro later sameFrames c rest suffix laterAhead
    have notSpecial := ordinary c (suffix.subset (by simp))
    exact choice?_eq_none_in_string rules laterAhead notSpecial (sameFrames.trans frames) opens

theorem reads_closingQuote (quote : Quote) :
    Reads .string (Rule.stringCloser quote) none [quote.mark] tail := by
  cases quote
  · exact @reads_plain _ _ _ _ [] [] rfl rfl ⟨rfl, rfl, rfl⟩ rfl (by simp)
  · exact @reads_plain _ _ _ _ [] [] rfl rfl ⟨rfl, rfl, rfl⟩ rfl (by simp)

/-- A backslash is read together with the character after it, whatever that is. -/
theorem reads_escapedStringChar (c : Char) :
    Reads .string Rule.escapedStringChar none ['\\', c] tail := by
  let start := Regex.Cursor.atStart ('\\' :: c :: tail)
  have reached : Terminal.escapedStringChar.matchStart ('\\' :: c :: tail) =
      some (start.pass ['\\', c]) := by
    rw [Terminal.escapedStringChar, Regex.matchStart, Regex.matchThen, Regex.char,
      @Regex.matchThen_set _ _ _ _ (c :: tail) _ rfl (by decide),
      @Regex.matchThen_set _ _ _ _ tail _ rfl rfl]
    rfl
  have moved : (start.pass ['\\', c]).passed ≠ 0 := by
    simp
  exact ⟨⟨rfl, rfl, rfl⟩, ⟨'\\', c :: tail, [], [], rfl, rfl, by simp⟩, _,
    Pattern.find?_ofRegex reached moved, rfl, rfl⟩

end Scan

end PassageMarkup
