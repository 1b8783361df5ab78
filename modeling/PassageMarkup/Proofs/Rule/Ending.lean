import PassageMarkup.Proofs.Regex.Folding
import PassageMarkup.Proofs.Rule.Block

/-!
# Where matches end

What a rule of expressions takes ends beside no name: the text ends at a word boundary, or with a
character that words do not have, or with the last character that a name can have.  Only a number
can end where a name goes on.
-/

namespace PassageMarkup

namespace Regex

variable {r : Regex} {cursor later : Cursor} {next : Cursor → Option Cursor}

theorem Matches.before_eq (matched : Matches r cursor later) :
    ∃ text, cursor.rest = text ++ later.rest ∧ later.before = text.getLast?.or cursor.before := by
  have stays (cursor : Cursor) : ∃ text, cursor.rest = text ++ cursor.rest ∧
      cursor.before = text.getLast?.or cursor.before :=
    ⟨[], rfl, rfl⟩
  have moves {cursor middle later : Cursor}
      (one : ∃ text, cursor.rest = text ++ middle.rest ∧
        middle.before = text.getLast?.or cursor.before)
      (more : ∃ text, middle.rest = text ++ later.rest ∧
        later.before = text.getLast?.or middle.before) :
      ∃ text, cursor.rest = text ++ later.rest ∧
        later.before = text.getLast?.or cursor.before := by
    obtain ⟨left, leftRest, leftBefore⟩ := one
    obtain ⟨right, rightRest, rightBefore⟩ := more
    refine ⟨left ++ right, ?_, ?_⟩
    · rw [leftRest, rightRest, List.append_assoc]
    · rw [rightBefore, leftBefore, List.getLast?_append, Option.or_assoc]
  induction matched with
  | @set accepts cursor c rest ahead accepted => exact ⟨[c], ahead, rfl⟩
  | seq _ _ left right => exact moves left right
  | altLeft _ induction => exact induction
  | altRight _ induction => exact induction
  | starMore _ _ one more => exact moves one more
  | lazyMore _ _ one more => exact moves one more
  | @group name body cursor later _ induction => cases name <;> exact induction
  | _ => exact stays _

/-- Tells whether every match of an expression ends at a word boundary. -/
def endsAtBoundary : Regex → Bool
  | .seq _ right => right.endsAtBoundary
  | .alt left right => left.endsAtBoundary && right.endsAtBoundary
  | .wordBoundary => true
  | _ => false

theorem Matches.atWordBoundary (matched : Matches r cursor later)
    (bounded : r.endsAtBoundary = true) : later.atWordBoundary = true := by
  induction matched with
  | seq _ _ _ induction => exact induction bounded
  | altLeft _ induction =>
      rw [endsAtBoundary, Bool.and_eq_true] at bounded
      exact induction bounded.1
  | altRight _ induction =>
      rw [endsAtBoundary, Bool.and_eq_true] at bounded
      exact induction bounded.2
  | wordBoundary boundary => exact boundary
  | _ => contradiction

/-- The last of the expressions that follow each other, also inside a group. -/
def lastPart : Regex → Regex
  | .seq _ right => right.lastPart
  | .group _ body => body.lastPart
  | r => r

/-- What follows an expression accepts every place and leaves the text ahead as it is. -/
def KeepsRest (next : Cursor → Option Cursor) : Prop :=
  ∀ place, ∃ later, next place = some later ∧ later.rest = place.rest

theorem matchThen_lastPart (keeps : KeepsRest next)
    (success : r.matchThen next cursor = some later) :
    ∃ further middle, KeepsRest further ∧ r.lastPart.matchThen further middle = some later := by
  induction r generalizing next cursor with
  | seq left right _ induction =>
      obtain ⟨middle, _, others⟩ := matchThen_finds left _ _ _ success
      exact induction keeps others
  | group name body induction =>
      refine induction ?_ success
      intro place
      obtain ⟨later, handed, rest⟩ := keeps (place.keep name cursor.passed)
      exact ⟨later, handed, by rw [rest, Cursor.keep_rest]⟩
  | _ => exact ⟨next, cursor, keeps, success⟩

theorem matchThen_greedy {accepts : Char → Bool} (keeps : KeepsRest next)
    (last : r.lastPart = .star (.set accepts))
    (success : r.matchThen next cursor = some later) :
    ∀ c, later.rest.head? = some c → accepts c = false := by
  obtain ⟨further, middle, keeps, repeated⟩ := matchThen_lastPart keeps success
  obtain ⟨run, result, whole, handed, stops⟩ :=
    matchThen_star_set accepts middle fun place =>
      (keeps place).imp fun _ accepted => accepted.1
  rw [last, whole] at repeated
  cases repeated
  obtain ⟨_, same, rest⟩ := keeps (middle.pass run)
  rw [handed] at same
  cases same
  rw [rest]
  exact stops

end Regex

namespace Pattern

variable {pattern : Pattern} {r : Regex} {remaining : Text} {found : Match} {b c : Char}

/-- A pattern that ends with a repetition of a set goes on as long as it can. -/
theorem find?_greedy {accepts : Char → Bool} (last : r.lastPart = .star (.set accepts))
    (accepted : accepts c = true) (success : (ofRegex r).find? remaining = some found) :
    found.following.head? ≠ some c := by
  obtain ⟨cursor, reached, _, _, rfl⟩ := find?_regex_iff.mp success
  intro head
  have stopped := Regex.matchThen_greedy (fun place => ⟨place, rfl, rfl⟩) last reached c head
  rw [accepted] at stopped
  contradiction

theorem find?_getLast? (notLast : pattern.toRegex.ends c = false)
    (success : pattern.find? remaining = some found) : found.text.getLast? ≠ some c := by
  intro last
  rw [(find?_denotes success).2.ends_of_getLast? last] at notLast
  contradiction

theorem find?_boundary (bounded : r.endsAtBoundary = true)
    (success : (ofRegex r).find? remaining = some found) (last : found.text.getLast? = some b)
    (head : found.following.head? = some c) : Unicode.isWord b ≠ Unicode.isWord c := by
  have splits := find?_splitsOff success
  obtain ⟨cursor, reached, _, _, rfl⟩ := find?_regex_iff.mp success
  have matched := Regex.matchStart_matches reached
  obtain ⟨text, rest, before⟩ := matched.before_eq
  have same : remaining.take cursor.passed = text :=
    List.append_cancel_right (splits.remaining_eq.symm.trans rest)
  have boundary := matched.atWordBoundary bounded
  simp only at last head
  rw [same] at last
  rw [last] at before
  rw [Regex.Cursor.atWordBoundary, before, head] at boundary
  simpa using boundary

/-- A pattern whose matches do not end beside a name. -/
inductive PartsNames : Pattern → Prop where
  | boundary {r : Regex} : r.endsAtBoundary = true → PartsNames (ofRegex r)
  | greedy {r : Regex} :
      r.lastPart = .star (.set Terminal.isNameChar) → PartsNames (ofRegex r)
  | mark {pattern : Pattern} :
      (∀ c, pattern.toRegex.ends c = true → Unicode.isWord c = false) → PartsNames pattern
  | beforeBlank {pattern : Pattern} : PartsNames (pattern.followedBy Terminal.lineBlank)

end Pattern

namespace Terminal

theorem not_isWord_of_isLineBlank {c : Char} (blank : isLineBlank c = true) :
    Unicode.isWord c = false := by
  rw [isLineBlank, Bool.or_eq_true, List.contains_iff_mem] at blank
  rcases blank with listed | inRange
  · have table : (" \x0c\t\x0b\u00a0\u1680\u180e\u202f\u205f\u3000\ufeff".toList.all fun c =>
        !Unicode.isWord c) = true := by decide +kernel
    simpa using List.all_eq_true.mp table c listed
  · have table : ∀ i < 11, Unicode.isWord (Char.ofNat (0x2000 + i)) = false := by decide +kernel
    rw [Bool.and_eq_true, decide_eq_true_eq, decide_eq_true_eq] at inRange
    have low : 0x2000 ≤ c.toNat := UInt32.le_iff_toNat_le.mp inRange.1
    have high : c.toNat ≤ 0x200a := UInt32.le_iff_toNat_le.mp inRange.2
    have code : Char.ofNat (0x2000 + (c.toNat - 0x2000)) = c := by
      rw [Nat.add_sub_cancel' low]
      exact Char.ofNat_toNat c
    rw [← code]
    exact table _ (by omega)

end Terminal

namespace Pattern

variable {pattern : Pattern} {remaining : Text} {found : Match} {b c : Char}

theorem PartsNames.written (marks : List Char)
    (lasts : pattern.toRegex.lasts = marks.map Regex.sameAs)
    (apart : marks.all (fun c => Regex.isCaseless c && !Unicode.isWord c) = true) :
    pattern.PartsNames := by
  apply PartsNames.mark
  intro c ends
  rw [Regex.ends, lasts, List.any_map, List.any_eq_true] at ends
  obtain ⟨d, member, same⟩ := ends
  have entry := List.all_eq_true.mp apart d member
  rw [Bool.and_eq_true, Bool.not_eq_true'] at entry
  rw [Regex.eq_of_sameAs entry.1 same]
  exact entry.2

/-- Such a pattern does not stop in the middle of a word that goes on with a name. -/
theorem PartsNames.apart (parts : pattern.PartsNames)
    (success : pattern.find? remaining = some found) (last : found.text.getLast? = some b)
    (head : found.following.head? = some c) (before : Unicode.isWord b = true)
    (after : Unicode.isWord c = true) : Terminal.isNameChar c = false := by
  cases parts with
  | boundary bounded =>
      have differ := find?_boundary bounded success last head
      rw [before, after] at differ
      exact absurd rfl differ
  | greedy lastPart =>
      rw [← Bool.not_eq_true]
      intro nameChar
      exact find?_greedy lastPart nameChar success head
  | mark apart =>
      rw [apart b ((find?_denotes success).2.ends_of_getLast? last)] at before
      contradiction
  | beforeBlank =>
      obtain ⟨cursor, _, _, allowed, rfl⟩ := find?_regex_iff.mp success
      have blank : Terminal.isLineBlank c = true := by
        obtain ⟨others, rest⟩ := List.head?_eq_some_iff.mp head
        simp only at rest
        rw [Option.all_some, Lookahead.allows, rest, Terminal.lineBlank, Regex.matchStart,
          Regex.matchThen, Regex.setThen] at allowed
        by_contra notBlank
        simp [Regex.Cursor.atStart, notBlank] at allowed
      rw [Terminal.not_isWord_of_isLineBlank blank] at after
      contradiction

end Pattern

namespace Rule

variable {rule : Rule}

theorem not_isWord_of_whitespace {c : Char} (ends : Terminal.whitespace.ends c = true) :
    Unicode.isWord c = false := by
  have sets : Terminal.whitespace.lasts =
      [Terminal.isLineBlank, Regex.sameAs '\n', Terminal.isLineBlank, Regex.sameAs '\n'] :=
    rfl
  have feed (same : Regex.sameAs '\n' c = true) : Unicode.isWord c = false := by
    rw [Regex.eq_of_sameAs (by decide) same]
    decide +kernel
  rw [Regex.ends, sets] at ends
  simp only [List.any_cons, List.any_nil, Bool.or_eq_true, Bool.or_false] at ends
  rcases ends with blank | same | blank | same
  · exact Terminal.not_isWord_of_isLineBlank blank
  · exact feed same
  · exact Terminal.not_isWord_of_isLineBlank blank
  · exact feed same

/-- What the rules of expressions take by itself does not end beside a name, unless it is a
number. -/
theorem partsNames_or (member : rule ∈ expression) (notFront : rule.front = false)
    (closesNothing : rule.closes = []) : rule.kind = .number ∨ rule.pattern.PartsNames := by
  fin_cases member
  all_goals first
    | contradiction
    | exact .inl rfl
    | apply Or.inr
  all_goals try exact .boundary rfl
  -- left are the rules that do not ask for a word boundary, in the order of the table
  exacts
    [.written [']'] rfl (by decide +kernel),
      .mark fun _ => not_isWord_of_whitespace,
      .written ['>'] rfl (by decide +kernel),
      .written [','] rfl (by decide +kernel),
      .written ['.'] rfl (by decide +kernel),
      .greedy rfl, .beforeBlank, .greedy rfl, .greedy rfl, .greedy rfl, .greedy rfl,
      .written ['>', '<', '=', '=', '>', '<', '='] rfl (by decide +kernel),
      .written ['=', '=', '<', '>'] rfl (by decide +kernel),
      .written ['+'] rfl (by decide +kernel),
      .written ['-'] rfl (by decide +kernel),
      .written ['*'] rfl (by decide +kernel),
      .written ['/'] rfl (by decide +kernel)]

end Rule

namespace Regex

/-- Every match of an expression begins with a character of a kind. -/
def Leads (kind : Char → Bool) : Regex → Prop
  | .set accepts => ∀ c, accepts c = true → kind c = true
  | .seq left right => left.Leads kind ∧ (left.nullable = true → right.Leads kind)
  | .alt left right => left.Leads kind ∧ right.Leads kind
  | .star body => body.Leads kind
  | .lazyStar body => body.Leads kind
  | .group _ body => body.Leads kind
  | _ => True

variable {r : Regex} {kind : Char → Bool} {c : Char}

theorem Leads.of_starts (leads : r.Leads kind) (starts : r.starts c = true) : kind c = true := by
  induction r with
  | set accepts =>
      apply leads
      simpa [Regex.starts, heads] using starts
  | seq left right leftLeads rightLeads =>
      rw [starts_seq, Bool.or_eq_true, Bool.and_eq_true] at starts
      rcases starts with first | ⟨nullable, second⟩
      · exact leftLeads leads.1 first
      · exact rightLeads (leads.2 nullable) second
  | alt left right leftLeads rightLeads =>
      rw [starts_alt, Bool.or_eq_true] at starts
      rcases starts with first | second
      · exact leftLeads leads.1 first
      · exact rightLeads leads.2 second
  | star body induction => exact induction leads starts
  | lazyStar body induction => exact induction leads starts
  | group name body induction => exact induction leads starts
  | _ => contradiction

theorem Leads.seq {left right : Regex} (leads : left.Leads kind) (solid : left.nullable = false) :
    (seq left right).Leads kind := by
  refine ⟨leads, ?_⟩
  rw [solid]
  exact nofun

end Regex

theorem isLetter_of_foldsToLetter {c : Char} (letter : foldsToLetter c = true) :
    Unicode.isLetter c = true := by
  by_cases long : c = '\u017f'
  · rw [long]
    decide +kernel
  · by_cases kelvin : c = '\u212a'
    · rw [kelvin]
      decide +kernel
    · have same : Regex.foldCase c = c.toLower :=
        (if_neg long).trans (if_neg kelvin)
      rw [foldsToLetter, same] at letter
      rcases toLower_eq_or_mem_capitals c with small | capital
      · rw [small] at letter
        obtain ⟨i, bounded, rfl⟩ := exists_small_letter letter
        have table : ∀ i < 26, Unicode.isLetter (Char.ofNat (97 + i)) = true := by
          decide +kernel
        exact table i bounded
      · have table : (capitals.all Unicode.isLetter) = true := by decide +kernel
        exact List.all_eq_true.mp table c capital

theorem isDecimalDigit_of_isDigit {c : Char} (digit : c.isDigit = true) :
    Unicode.isDecimalDigit c = true := by
  have bounds : 48 ≤ c.val ∧ c.val ≤ 57 := by
    simpa [Char.isDigit] using digit
  have low : 48 ≤ c.toNat := UInt32.le_iff_toNat_le.mp bounds.1
  have high : c.toNat ≤ 57 := UInt32.le_iff_toNat_le.mp bounds.2
  have code : Char.ofNat (48 + (c.toNat - 48)) = c := by
    rw [Nat.add_sub_cancel' low]
    exact Char.ofNat_toNat c
  have table : ∀ i < 10, Unicode.isDecimalDigit (Char.ofNat (48 + i)) = true := by decide +kernel
  rw [← code]
  exact table _ (by omega)

namespace Terminal

/-- Tells whether a character goes on with a name or stands outside words. -/
def partsFromName (c : Char) : Bool :=
  isNameChar c || !Unicode.isWord c

variable {c : Char}

theorem partsFromName_of_letter (letter : Unicode.isLetter c = true) : partsFromName c = true := by
  simp [partsFromName, isNameChar, isNameLetter, letter]

theorem partsFromName_of_digit (digit : c.isDigit = true) : partsFromName c = true := by
  simp [partsFromName, isNameChar, Unicode.isNumeral, isDecimalDigit_of_isDigit digit]

theorem leads_literal {written : Text} (small : written.head?.any Char.isLower = true) :
    (Regex.literal written).Leads partsFromName := by
  cases written with
  | nil => contradiction
  | cons first rest =>
      have here : (Regex.char first).Leads partsFromName := by
        intro c same
        apply partsFromName_of_letter
        apply isLetter_of_foldsToLetter
        rw [foldsToLetter, eq_of_beq same, foldCase_of_isLower small]
        exact small
      cases rest with
      | nil => exact here
      | cons next others => exact here.seq rfl

theorem leads_words {words : List String}
    (small : words.all (·.toList.head?.any Char.isLower) = true) :
    (Regex.either (words.map Regex.text)).Leads partsFromName := by
  induction words with
  | nil => exact nofun
  | cons word rest induction =>
      rw [List.all_cons, Bool.and_eq_true] at small
      cases rest with
      | nil => exact leads_literal small.1
      | cons next others => exact ⟨leads_literal small.1, induction small.2⟩

theorem leads_caseless {mark : Char} (caseless : Regex.isCaseless mark = true)
    (parts : partsFromName mark = true) : (Regex.char mark).Leads partsFromName := by
  intro c same
  rw [Regex.eq_of_sameAs caseless same]
  exact parts

theorem leads_keptName : keptName.Leads partsFromName := by
  have nameChar : ∀ c, isNameChar c = true → partsFromName c = true := by
    intro c nameChar
    simp [partsFromName, nameChar]
  have nameLetter : ∀ c, isNameLetter c = true → partsFromName c = true := by
    intro c nameLetter
    simp [partsFromName, isNameChar, nameLetter]
  exact ⟨nameChar, fun _ => ⟨nameLetter, fun _ => nameChar⟩⟩

end Terminal

namespace Rule

open Terminal

theorem leads_of_word {rule : Rule} (member : rule ∈ words ++ keywords) :
    rule.pattern.toRegex.Leads partsFromName := by
  have digits : (Regex.many1 digit).Leads partsFromName :=
    .seq (fun _ => partsFromName_of_digit) rfl
  have point : (Regex.char '.').Leads partsFromName := leads_caseless (by decide) (by decide +kernel)
  have two : (Regex.char '2').Leads partsFromName := leads_caseless (by decide) (by decide +kernel)
  have sign : (Regex.char '#').Leads partsFromName := leads_caseless (by decide) (by decide +kernel)
  rcases List.mem_append.mp member with word | keyword
  · fin_cases word
    exacts
      [.seq (leads_literal (by decide)) rfl,
        .seq (leads_literal (by decide)) rfl,
        .seq (.seq leads_keptName rfl) rfl,
        .seq (.seq leads_keptName rfl) rfl,
        .seq (leads_literal (by decide)) rfl,
        .seq ⟨⟨two, trivial⟩, fun _ => leads_literal (by decide)⟩ rfl,
        .seq (.seq ⟨.seq digits rfl, .seq point rfl⟩ rfl) rfl,
        .seq digits rfl,
        ⟨.seq sign rfl, .seq (@leads_words colourNames (by decide)) rfl⟩,
        .seq (@leads_words ["true", "false"] (by decide)) rfl,
        .seq (@leads_words datatypeNames (by decide)) rfl,
        .seq (@leads_words identifierNames (by decide)) rfl]
  · fin_cases keyword
    all_goals first
      | exact .seq (leads_literal (by decide)) rfl
      | exact .seq (.seq (leads_literal (by decide)) rfl) rfl

end Rule

end PassageMarkup
