import PassageMarkup.Proofs.Document.Plain
import PassageMarkup.Proofs.Scan.Writes

/-!
# Reading the delimiters of documents

Each delimiter of a document is taken by its own rule.  The rules before it in the same mode can
begin with the same character, but what follows in a document is nothing that they go on with.
-/

namespace PassageMarkup

/-- Tells whether a character can come where the text of a document is read, or after it. -/
def isDocumentHead (c : Char) : Bool :=
  isPlain c || ['\x7b', '\x7d', '|', '(', ']'].contains c

/-- Tells whether a character can come where the arguments of a call are read, or after them. -/
def isArgumentsHead (c : Char) : Bool :=
  [',', '$', '"', '(', '[', ')'].contains c

theorem not_isCallChar_of_isArgumentsHead {c : Char} (head : isArgumentsHead c = true) :
    Terminal.isCallChar c = false := by
  have listed : c ∈ [',', '$', '"', '(', '[', ')'] := List.contains_iff_mem.mp head
  fin_cases listed <;> rfl

namespace Scan

variable {mode : Mode} {rule : Rule} {name tail : Text} {c : Char}

theorem reads_plain {earlier later : List Rule} (pattern : rule.pattern = .plain [c])
    (whole : rule.lexeme = Lexeme.whole)
    (free : rule.beginsLine = false ∧ rule.cannotFollowText = false ∧ rule.closer = none)
    (live : Rule.live mode c = earlier ++ rule :: later)
    (nothing : ∀ other ∈ earlier, other.pattern.find? (c :: tail) = none) :
    Reads mode rule none [c] tail := by
  have success : rule.pattern.find? ([c] ++ tail) = some ⟨[c], none, none, tail⟩ := by
    rw [pattern]
    exact Pattern.find?_plain_append (by simp)
  refine ⟨free, ⟨c, tail, earlier, later, rfl, live, nothing⟩, _, success, rfl, ?_⟩
  rw [whole]
  rfl

theorem reads_collapsedFront : Reads .prose Rule.collapsedFront none ['\x7b'] tail :=
  @reads_plain _ _ _ _ [] [] rfl rfl ⟨rfl, rfl, rfl⟩ rfl (by simp)

theorem reads_collapsedBack : Reads .prose Rule.collapsedBack none ['\x7d'] tail :=
  @reads_plain _ _ _ _ [] [] rfl rfl ⟨rfl, rfl, rfl⟩ rfl (by simp)

theorem reads_groupingBack : Reads .expression Rule.groupingBack none [')'] tail :=
  @reads_plain _ _ _ _ [] [] rfl rfl ⟨rfl, rfl, rfl⟩ rfl (by simp)

theorem reads_comma : Reads .expression Rule.comma none [','] tail :=
  @reads_plain _ _ _ _ [] [] rfl rfl ⟨rfl, rfl, rfl⟩ rfl (by simp)

theorem reads_stringOpener : Reads .expression (Rule.stringOpener .double) none ['"'] tail :=
  @reads_plain _ _ _ _ [] [] rfl rfl ⟨rfl, rfl, rfl⟩ rfl (by simp)

end Scan

namespace Rule

variable {name tail : Text}

private theorem find?_eq_none_of_inOrder {pattern : Pattern} {others : List Regex} {c d : Char}
    (regex : pattern.toRegex = .inOrder (.literal [c, d] :: others))
    (caseless : [c, d].all Regex.isCaseless = true) (other : tail.head? ≠ some d) :
    pattern.find? (c :: tail) = none := by
  cases result : pattern.find? (c :: tail) with
  | none => rfl
  | some found =>
      obtain ⟨splits, denotes⟩ := Pattern.find?_denotes result
      rw [regex] at denotes
      obtain ⟨after, text⟩ := denotes.exists_append_of_inOrder caseless
      have ahead := splits.remaining_eq
      rw [text] at ahead
      have rest := (List.cons_eq_cons.mp ahead).2
      rw [rest] at other
      simp at other

theorem link_finds_nothing (document : tail.Begins isDocumentHead) :
    link.pattern.find? ('[' :: tail) = none := by
  apply find?_eq_none_of_inOrder (d := '[') rfl (by decide)
  intro head
  have := document '[' head
  contradiction

theorem hookAppendedBack_finds_nothing (notAngle : tail.head? ≠ some '<') :
    hookAppendedBack.pattern.find? (']' :: tail) = none :=
  find?_eq_none_of_inOrder rfl (by decide) notAngle

theorem macroFront_finds_nothing (arguments : tail.Begins isArgumentsHead) :
    macroFront.pattern.find? ('(' :: tail) = none := by
  cases result : macroFront.pattern.find? ('(' :: tail) with
  | none => rfl
  | some found =>
      obtain ⟨⟨nonempty, called⟩, text⟩ := find?_macroFront result
      have ahead := (Pattern.find?_splitsOff result).remaining_eq
      rw [text] at ahead
      cases named : found.firstText with
      | nil => contradiction
      | cons c others =>
          rw [named] at ahead called
          have rest := (List.cons_eq_cons.mp ahead).2
          have notName := not_isCallChar_of_isArgumentsHead (arguments c (by rw [rest]; rfl))
          rw [called c (by simp)] at notName
          contradiction

theorem column_finds_nothing (called : IsCallName name) :
    column.pattern.find? ('|' :: name ++ tail) = none := by
  cases result : column.pattern.find? ('|' :: name ++ tail) with
  | none => rfl
  | some found =>
      obtain ⟨splits, denotes⟩ := Pattern.find?_denotes result
      have marks :=
        (plainStarters_marksPlain (by simp [plainStarters]) denotes).append found.following
      rw [← splits.remaining_eq] at marks
      obtain ⟨nonempty, all⟩ := called
      have follows : Text.FollowsPlain ('|' :: name ++ tail) := by
        cases name with
        | nil => contradiction
        | cons c others =>
            exact .inr ⟨'|', _, rfl, .inr ⟨rfl, c, others ++ tail, rfl, all c (by simp)⟩⟩
      exact absurd marks (@follows.not_marksPlain [] _ (by simp))

theorem unclosedHook_finds_nothing (called : IsCallName name) (notEquals : tail.head? ≠ some '=') :
    unclosedHook.pattern.find? (['|'] ++ name ++ ['>', '['] ++ tail) = none := by
  cases result : unclosedHook.pattern.find? (['|'] ++ name ++ ['>', '['] ++ tail) with
  | none => rfl
  | some found =>
      rcases find?_unclosedHook result with absent | ⟨other, otherCalled, named⟩
      · exact absurd (List.cons_eq_cons.mp absent).1 (by decide)
      · have same : name ++ '>' :: '[' :: tail = other ++ '>' :: '[' :: '=' :: found.following := by
          simpa using named
        have ends : ∀ rest, Text.Begins (fun c => !Terminal.isCallChar c) ('>' :: rest) := by
          intro rest c head
          cases head
          decide
        have after := (Text.run_unique same called.2 otherCalled.2 (ends _) (ends _)).2
        simp only [List.cons.injEq, true_and] at after
        rw [after] at notEquals
        contradiction

end Rule

namespace Scan

variable {mode : Mode} {name tail : Text}

theorem reads_hookBack (notAngle : tail.head? ≠ some '<') :
    Reads .prose Rule.hookBack none [']'] tail := by
  apply @reads_plain _ _ _ _ [Rule.hookAppendedBack] [] rfl rfl ⟨rfl, rfl, rfl⟩ rfl
  simpa using Rule.hookAppendedBack_finds_nothing notAngle

theorem reads_groupingFront (arguments : tail.Begins isArgumentsHead) :
    Reads .expression Rule.groupingFront none ['('] tail := by
  apply @reads_plain _ _ _ _ [Rule.macroFront] [] rfl rfl ⟨rfl, rfl, rfl⟩ rfl
  simpa using Rule.macroFront_finds_nothing arguments

theorem reads_hookFront (document : tail.Begins isDocumentHead) :
    Reads .expression Rule.hookFront none ['['] tail := by
  have notEquals : ∀ c, tail.head? = some c → c ≠ '=' := by
    rintro c head rfl
    exact absurd (document '=' head) (by decide)
  refine ⟨⟨rfl, rfl, rfl⟩, ⟨'[', tail, [Rule.link], [], rfl, rfl, ?_⟩, _,
    Rule.finds_hookFront notEquals, rfl, rfl⟩
  simpa using Rule.link_finds_nothing document

private theorem named_eq (before name after following : Text) :
    Lexeme.named ⟨before ++ name ++ after, some ⟨before.length, before.length + name.length⟩, none,
      following⟩ = .delimiter (before ++ name ++ after).length 0 (some name) := by
  have firstText : Match.firstText ⟨before ++ name ++ after,
      some ⟨before.length, before.length + name.length⟩, none, following⟩ = name :=
    Text.slice_between before name after
  rw [Lexeme.named, firstText]
  rfl

theorem reads_hookPrependedFront (called : IsCallName name) (notEquals : tail.head? ≠ some '=') :
    Reads .prose Rule.hookPrependedFront (some name) (['|'] ++ name ++ ['>', '[']) tail := by
  refine ⟨⟨rfl, rfl, rfl⟩, ⟨'|', _, [Rule.column, Rule.unclosedHook], [], rfl, rfl, ?_⟩, _,
    Rule.finds_hookPrependedFront called, rfl, named_eq ['|'] name ['>', '['] tail⟩
  have column : Rule.column.pattern.find? (['|'] ++ name ++ ['>', '['] ++ tail) = none := by
    simpa using @Rule.column_finds_nothing name (['>', '['] ++ tail) called
  rw [List.forall_mem_cons, List.forall_mem_singleton]
  exact ⟨column, Rule.unclosedHook_finds_nothing called notEquals⟩

theorem reads_macroFront (live : ∃ later, Rule.live mode '(' = Rule.macroFront :: later)
    (called : IsCallName name) :
    Reads mode Rule.macroFront (some name) (['('] ++ name ++ [':']) tail := by
  obtain ⟨later, live⟩ := live
  refine ⟨⟨rfl, rfl, rfl⟩, ⟨'(', _, [], later, rfl, live, by simp⟩, _,
    Rule.finds_macroFront called, rfl, named_eq ['('] name [':'] tail⟩

theorem reads_storyVariable (named : IsValueName name) (arguments : tail.Begins isArgumentsHead) :
    Reads .expression Rule.storyVariable (some name) ('$' :: name) tail := by
  have ends : ∀ c, tail.head? = some c → Terminal.isNameChar c = false := by
    intro c head
    exact (Bool.or_eq_false_iff.mp (not_isCallChar_of_isArgumentsHead (arguments c head))).1
  refine ⟨⟨rfl, rfl, rfl⟩, ⟨'$', _, [], [], rfl, rfl, by simp⟩, _,
    Rule.finds_storyVariable named ends, rfl, ?_⟩
  have taken := named_eq ['$'] name [] tail
  rw [List.append_nil] at taken
  exact taken

end Scan

end PassageMarkup
