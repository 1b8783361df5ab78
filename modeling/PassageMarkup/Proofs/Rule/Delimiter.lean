import Mathlib.Tactic.FinCases
import PassageMarkup.Rule.Table
import PassageMarkup.Proofs.Pattern

/-!
# Delimiters

How fronts and backs are written, and which of them make a pair.  Every front and every back that
a rule of the table finds is written in one of these ways, and a back that a rule pairs with an
open front is one that belongs to it.
-/

namespace PassageMarkup

/-- A name that a macro or hook can have. -/
def IsCallName (name : Text) : Prop :=
  name ≠ [] ∧ ∀ c ∈ name, Terminal.isCallChar c = true

/-- The fronts of each kind: their arity, their name and their text. -/
inductive Opens : Kind → Nat → Option Text → Text → Prop where
  | verbatim (length : Nat) :
      Opens .verbatimOpener (length + 1) none (List.replicate (length + 1) '\x60')
  | hook : Opens .hookFront 0 none ['[']
  | namedHook {name : Text} :
      IsCallName name → Opens .hookPrependedFront 0 (some name) (['|'] ++ name ++ ['>', '['])
  | collapsed : Opens .collapsedFront 0 none ['\x7b']
  | emphasis (emphasis : Emphasis) :
      Opens (.emphasis emphasis) 0 none (Rule.emphasisMark emphasis)
  | macroCall {name : Text} :
      IsCallName name → Opens .macroFront 0 (some name) (['('] ++ name ++ [':'])
  | grouping : Opens .groupingFront 0 none ['(']
  | string (quote : Quote) : Opens (.stringOpener quote) 0 none (Rule.quoteText quote)

/-- The backs that close a front of a kind into a pair of a kind: the back's own kind comes first,
its arity, its name and its text last. -/
inductive Closes : Kind → Kind → Kind → Nat → Option Text → Text → Prop where
  | verbatim (length : Nat) :
      Closes .verbatimOpener .verbatimOpener .verbatim (length + 1) none
        (List.replicate (length + 1) '\x60')
  | hook : Closes .hookBack .hookFront .hook 0 none [']']
  | namedHook : Closes .hookBack .hookPrependedFront .hook 0 none [']']
  | hookNamed {name : Text} :
      IsCallName name →
      Closes .hookAppendedBack .hookFront .hook 0 (some name) ([']', '<'] ++ name ++ ['|'])
  | collapsed : Closes .collapsedBack .collapsedFront .collapsed 0 none ['\x7d']
  | emphasis (emphasis : Emphasis) :
      Closes (.emphasis emphasis) (.emphasis emphasis) (.emphasis emphasis) 0 none
        (Rule.emphasisMark emphasis)
  | macroCall : Closes .groupingBack .macroFront .macroCall 0 none [')']
  | grouping : Closes .groupingBack .groupingFront .grouping 0 none [')']
  | string (quote : Quote) :
      Closes (.stringCloser quote) (.stringOpener quote) .string 0 none (Rule.quoteText quote)

/-- The texts before and after the inside of a pair of a kind, with the name that they give it. -/
inductive Delimits : Kind → Option Text → Text → Text → Prop where
  | verbatim {length : Nat} :
      0 < length →
      Delimits .verbatim none (List.replicate length '\x60') (List.replicate length '\x60')
  | hook : Delimits .hook none ['['] [']']
  | namedHook {name : Text} :
      IsCallName name → Delimits .hook (some name) (['|'] ++ name ++ ['>', '[']) [']']
  | hookNamed {name : Text} :
      IsCallName name → Delimits .hook (some name) ['['] ([']', '<'] ++ name ++ ['|'])
  | collapsed : Delimits .collapsed none ['\x7b'] ['\x7d']
  | emphasis (emphasis : Emphasis) :
      Delimits (.emphasis emphasis) none (Rule.emphasisMark emphasis)
        (Rule.emphasisMark emphasis)
  | macroCall {name : Text} :
      IsCallName name → Delimits .macroCall (some name) (['('] ++ name ++ [':']) [')']
  | grouping : Delimits .grouping none ['('] [')']
  | string (quote : Quote) :
      Delimits .string none (Rule.quoteText quote) (Rule.quoteText quote)

theorem Opens.ne_nil {kind : Kind} {arity : Nat} {name : Option Text} {text : Text}
    (opens : Opens kind arity name text) : text ≠ [] := by
  cases opens with
  | emphasis emphasis => cases emphasis <;> decide
  | string quote => cases quote <;> decide
  | _ => simp

/-- A front and a back that closes it delimit a pair; at most one of them gives it a name. -/
theorem Opens.delimits {front back pair : Kind} {arity : Nat} {frontName backName : Option Text}
    {frontText backText : Text} (opens : Opens front arity frontName frontText)
    (closes : Closes back front pair arity backName backText) :
    Delimits pair (backName <|> frontName) frontText backText := by
  cases closes with
  | verbatim length =>
      cases opens
      exact .verbatim (Nat.succ_pos length)
  | hook =>
      cases opens
      exact .hook
  | namedHook =>
      cases opens with
      | namedHook named => exact .namedHook named
  | hookNamed named =>
      cases opens
      exact .hookNamed named
  | collapsed =>
      cases opens
      exact .collapsed
  | emphasis emphasis =>
      cases opens
      exact .emphasis emphasis
  | macroCall =>
      cases opens with
      | macroCall named => exact .macroCall named
  | grouping =>
      cases opens
      exact .grouping
  | string quote =>
      cases opens
      exact .string quote

/-- What a rule takes for a delimiter. -/
def Lexeme.delimiter (length arity : Nat) (name : Option Text) : Lexeme :=
  { length, arity, fields := { name } }

namespace Rule

variable {mode : Mode} {rule : Rule} {remaining : Text} {found : Match}

theorem find?_verbatim
    (success : verbatimOpener.pattern.find? remaining = some found) :
    found.text = List.replicate found.text.length '\x60' ∧ 0 < found.text.length := by
  obtain ⟨splits, denotes⟩ := Pattern.find?_regex_splitsOff success
  refine ⟨?_, splits.length_pos⟩
  rw [List.eq_replicate_iff]
  refine ⟨rfl, ?_⟩
  intro c member
  have folded := denotes.of_many1.2 c member
  exact Regex.eq_of_foldCase_eq (by decide) (by simpa using folded)

theorem find?_hookFront (success : hookFront.pattern.find? remaining = some found) :
    found.text = ['['] :=
  (Pattern.find?_regex_splitsOff success).2.of_char (by decide)

private theorem find?_named {left right : Regex} {before after : Text}
    (success : (Pattern.ofRegex (.inOrder
      [left, .group .first (.many1 Terminal.callChar), right])).find? remaining = some found)
    (groupless : right.groupless = true)
    (leftText : ∀ text, left.Denotes text → text = before)
    (rightText : ∀ text, right.Denotes text → text = after) :
    IsCallName found.firstText ∧ found.text = before ++ found.firstText ++ after := by
  obtain ⟨first, name, last, leftDenotes, nameDenotes, rightDenotes, text, rfl⟩ :=
    Pattern.find?_firstBetween success groupless
  rw [leftText first leftDenotes, rightText last rightDenotes] at text
  exact ⟨nameDenotes.of_many1, text⟩

theorem find?_hookPrependedFront
    (success : hookPrependedFront.pattern.find? remaining = some found) :
    IsCallName found.firstText ∧ found.text = ['|'] ++ found.firstText ++ ['>', '['] :=
  find?_named success rfl (fun _ denotes => denotes.of_char (by decide))
    (fun _ denotes => Regex.Denotes.of_literal (by decide) denotes)

theorem find?_hookAppendedBack
    (success : hookAppendedBack.pattern.find? remaining = some found) :
    IsCallName found.firstText ∧ found.text = [']', '<'] ++ found.firstText ++ ['|'] :=
  find?_named success rfl (fun _ denotes => Regex.Denotes.of_literal (by decide) denotes)
    (fun _ denotes => denotes.of_char (by decide))

theorem find?_macroFront (success : macroFront.pattern.find? remaining = some found) :
    IsCallName found.firstText ∧ found.text = ['('] ++ found.firstText ++ [':'] :=
  find?_named success rfl (fun _ denotes => denotes.of_char (by decide))
    (fun _ denotes => denotes.of_char (by decide))

theorem front_cases (member : rule ∈ ofMode mode) (front : rule.front = true) :
    rule ∈ [verbatimOpener, hookPrependedFront, hookFront, collapsedFront, macroFront,
      groupingFront] ∨ (∃ emphasis, rule = ofEmphasis emphasis) ∨
      ∃ quote, rule = stringOpener quote := by
  cases mode <;> fin_cases member
  all_goals first
    | contradiction
    | exact .inr (.inl ⟨_, rfl⟩)
    | exact .inr (.inr ⟨_, rfl⟩)
    | exact .inl (by simp)

/-- A front that a rule of the table finds is written as its kind says. -/
theorem front_opens (member : rule ∈ ofMode mode) (front : rule.front = true)
    (success : rule.pattern.find? remaining = some found) :
    ∃ arity name, rule.lexeme found = .delimiter found.text.length arity name ∧
      Opens rule.kind arity name found.text := by
  rcases front_cases member front with listed | ⟨emphasis, rfl⟩ | ⟨quote, rfl⟩
  · fin_cases listed
    · obtain ⟨run, positive⟩ := find?_verbatim success
      refine ⟨found.text.length, none, rfl, ?_⟩
      obtain ⟨length, equal⟩ := Nat.exists_eq_add_one_of_ne_zero (Nat.ne_of_gt positive)
      rw [run, equal, List.length_replicate]
      exact .verbatim length
    · obtain ⟨named, text⟩ := find?_hookPrependedFront success
      refine ⟨0, some found.firstText, rfl, ?_⟩
      rw [text]
      exact .namedHook named
    · refine ⟨0, none, rfl, ?_⟩
      rw [find?_hookFront success]
      exact .hook
    · refine ⟨0, none, rfl, ?_⟩
      rw [(Pattern.find?_plain success).2]
      exact .collapsed
    · obtain ⟨named, text⟩ := find?_macroFront success
      refine ⟨0, some found.firstText, rfl, ?_⟩
      rw [text]
      exact .macroCall named
    · refine ⟨0, none, rfl, ?_⟩
      rw [(Pattern.find?_plain success).2]
      exact .grouping
  · refine ⟨0, none, rfl, ?_⟩
    rw [(Pattern.find?_plain success).2]
    exact .emphasis emphasis
  · refine ⟨0, none, rfl, ?_⟩
    rw [(Pattern.find?_plain success).2]
    exact .string quote

theorem back_cases (member : rule ∈ ofMode mode) (back : rule.closes ≠ []) :
    rule ∈ [verbatimOpener, hookAppendedBack, hookBack, collapsedBack, groupingBack] ∨
      (∃ emphasis, rule = ofEmphasis emphasis) ∨ ∃ quote, rule = stringCloser quote := by
  cases mode <;> fin_cases member
  all_goals first
    | contradiction
    | exact .inr (.inl ⟨_, rfl⟩)
    | exact .inr (.inr ⟨_, rfl⟩)
    | exact .inl (by simp)

theorem back_closes (member : rule ∈ ofMode mode) {front pair : Kind}
    (closes : (front, pair) ∈ rule.closes)
    (success : rule.pattern.find? remaining = some found) :
    ∃ arity name, rule.lexeme found = .delimiter found.text.length arity name ∧
      Closes rule.kind front pair arity name found.text := by
  rcases back_cases member (List.ne_nil_of_mem closes) with listed | ⟨emphasis, rfl⟩ | ⟨quote, rfl⟩
  · fin_cases listed
    · cases List.mem_singleton.mp closes
      obtain ⟨run, positive⟩ := find?_verbatim success
      refine ⟨found.text.length, none, rfl, ?_⟩
      obtain ⟨length, equal⟩ := Nat.exists_eq_add_one_of_ne_zero (Nat.ne_of_gt positive)
      rw [run, equal, List.length_replicate]
      exact .verbatim length
    · cases List.mem_singleton.mp closes
      obtain ⟨named, text⟩ := find?_hookAppendedBack success
      refine ⟨0, some found.firstText, rfl, ?_⟩
      rw [text]
      exact .hookNamed named
    · refine ⟨0, none, rfl, ?_⟩
      rw [(Pattern.find?_plain success).2]
      rcases List.mem_cons.mp closes with same | other
      · cases same
        exact .hook
      · cases List.mem_singleton.mp other
        exact .namedHook
    · cases List.mem_singleton.mp closes
      refine ⟨0, none, rfl, ?_⟩
      rw [(Pattern.find?_plain success).2]
      exact .collapsed
    · refine ⟨0, none, rfl, ?_⟩
      rw [(Pattern.find?_plain success).2]
      rcases List.mem_cons.mp closes with same | other
      · cases same
        exact .macroCall
      · cases List.mem_singleton.mp other
        exact .grouping
  · cases List.mem_singleton.mp closes
    refine ⟨0, none, rfl, ?_⟩
    rw [(Pattern.find?_plain success).2]
    exact .emphasis emphasis
  · cases List.mem_singleton.mp closes
    refine ⟨0, none, rfl, ?_⟩
    rw [(Pattern.find?_plain success).2]
    exact .string quote

theorem aka_cases (member : rule ∈ ofMode mode) : rule.aka = none ∨ rule.aka = some .verbatim := by
  have table : ∀ mode, ∀ rule ∈ ofMode mode, rule.aka = none ∨ rule.aka = some .verbatim := by
    intro mode
    cases mode <;> decide
  exact table mode rule member

theorem closes_ne_verbatim (member : rule ∈ ofMode mode) {front pair : Kind}
    (closes : (front, pair) ∈ rule.closes) : front ≠ .verbatim := by
  have table : ∀ mode, ∀ rule ∈ ofMode mode, ∀ closed ∈ rule.closes, closed.1 ≠ Kind.verbatim := by
    intro mode
    cases mode <;> decide
  exact table mode rule member (front, pair) closes

/-- A back resolves with a front only by the front's own kind, not by the kind under which the
front also counts. -/
theorem closes_of_resolves {other : Mode} {frontRule : Rule} (member : rule ∈ ofMode mode)
    (frontMember : frontRule ∈ ofMode other) {arity ownArity : Nat} {pair : Kind}
    (resolves : rule.resolves frontRule.kind frontRule.aka arity ownArity = some pair) :
    (frontRule.kind, pair) ∈ rule.closes ∧ arity = ownArity := by
  unfold Rule.resolves at resolves
  split at resolves
  · rename_i sameArity
    obtain ⟨⟨front, resolved⟩, found, rfl⟩ := Option.map_eq_some_iff.mp resolves
    have closes := List.mem_of_find?_eq_some found
    have matched := List.find?_some found
    have notAka : some front ≠ frontRule.aka := by
      rcases aka_cases frontMember with noAka | verbatim
      · simp [noAka]
      · rw [verbatim]
        simpa using closes_ne_verbatim member closes
    simp only [Bool.or_eq_true, beq_iff_eq, notAka, or_false] at matched
    rw [← matched]
    exact ⟨closes, sameArity⟩
  · contradiction

end Rule

end PassageMarkup
