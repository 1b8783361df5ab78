import PassageMarkup.Proofs.Rule.Settled

/-!
# Fronts by themselves

A pair that is read by itself begins with its front, in prose or in an expression.  The rules of
that mode that could take the front's first character instead are tried before the front in the mode
in which the pair was found, too, or cannot apply at the start of a text.
-/

namespace PassageMarkup

namespace Kind

/-- The mode in which a pair, or the front of a pair, is read by itself. -/
def aloneMode : Kind → Mode
  | grouping | groupingFront | string | stringOpener _ => .expression
  | _ => .prose

/-- The first character of the fronts of a kind. -/
def sign : Kind → Char
  | verbatimOpener => '\x60'
  | hookFront => '['
  | hookPrependedFront => '|'
  | collapsedFront => '\x7b'
  | emphasis mark => (Rule.emphasisMark mark).headD ' '
  | macroFront | groupingFront => '('
  | stringOpener quote => (Rule.quoteText quote).headD ' '
  | _ => ' '

end Kind

variable {back front pair : Kind} {arity : Nat} {name : Option Text} {text : Text}

theorem Closes.aloneMode_eq (closes : Closes back front pair arity name text) :
    front.aloneMode = pair.aloneMode := by
  cases closes <;> rfl

theorem Opens.head?_eq (opens : Opens front arity name text) : text.head? = some front.sign := by
  cases opens with
  | emphasis emphasis => cases emphasis <;> rfl
  | string quote => cases quote <;> rfl
  | _ => rfl

namespace Rule

variable {mode : Mode} {rule other : Rule} {rest : Text} {found : Match}

/-- The rules of a mode that are tried before those of a kind. -/
def before (mode : Mode) (kind : Kind) : List Rule :=
  (ofMode mode).takeWhile (·.kind != kind)

/-- A rule takes what it finds, wherever it stands. -/
structure Anywhere (rule : Rule) : Prop where
  beginsLine : rule.beginsLine = false
  cannotFollowText : rule.cannotFollowText = false
  unpaired : rule.front = true ∨ rule.closes = []

/-- Another rule does not apply at the start of a text with a front that a rule takes in a mode. -/
def GivesWay (mode : Mode) (rule other : Rule) : Prop :=
  other.beginsLine = true ∨ other ∈ before mode rule.kind ∧ other.Anywhere ∨
    rule = hookFront ∧ other = unclosedHook

theorem GivesWay.of_find? {mode : Mode} {rule other : Rule}
    (tried : (before mode rule.kind).find? (·.kind == other.kind) = some other)
    (anywhere : other.Anywhere) : GivesWay mode rule other :=
  .inr (.inl ⟨List.mem_of_find?_eq_some tried, anywhere⟩)

/-- The mode in which a front is read by itself has the front's rule behind rules that give way. -/
theorem front_live (member : rule ∈ ofMode mode) (isFront : rule.front = true) :
    ∃ earlier others, live rule.kind.aloneMode rule.kind.sign = earlier ++ rule :: others ∧
      ∀ other ∈ earlier, GivesWay mode rule other := by
  have kinds : rule.kind ∈ (ofMode mode).map Rule.kind := List.mem_map_of_mem member
  rcases front_cases member isFront with listed | ⟨emphasis, rfl⟩ | ⟨quote, rfl⟩
  · fin_cases listed
    · exact ⟨[], _, rfl, by simp⟩
    · have prose : mode = .prose := by
        revert kinds
        cases mode <;> decide
      subst prose
      refine ⟨[column, unclosedHook], _, rfl, ?_⟩
      rw [List.forall_mem_cons, List.forall_mem_singleton]
      exact ⟨.inl rfl, .of_find? rfl ⟨rfl, rfl, .inr rfl⟩⟩
    · have modes : mode = .prose ∨ mode = .expression := by
        revert kinds
        cases mode <;> decide
      have linkGivesWay : GivesWay mode hookFront link := by
        rcases modes with rfl | rfl <;> exact .of_find? rfl ⟨rfl, rfl, .inr rfl⟩
      refine ⟨[link, unclosedHook], _, rfl, ?_⟩
      rw [List.forall_mem_cons, List.forall_mem_singleton]
      exact ⟨linkGivesWay, .inr (.inr ⟨rfl, rfl⟩)⟩
    · exact ⟨[], _, rfl, by simp⟩
    · exact ⟨[], _, rfl, by simp⟩
    · have expression : mode = .expression := by
        revert kinds
        cases mode <;> decide
      subst expression
      refine ⟨[macroFront], _, rfl, ?_⟩
      rw [List.forall_mem_singleton]
      exact .of_find? rfl ⟨rfl, rfl, .inl rfl⟩
  · have prose : mode = .prose := by
      revert kinds
      cases emphasis <;> cases mode <;> decide
    subst prose
    cases emphasis
    case strong =>
      refine ⟨[bulleted], _, rfl, ?_⟩
      rw [List.forall_mem_singleton]
      exact .inl rfl
    case em =>
      refine ⟨[bulleted, ofEmphasis .strong], _, rfl, ?_⟩
      rw [List.forall_mem_cons, List.forall_mem_singleton]
      exact ⟨.inl rfl, .of_find? rfl ⟨rfl, rfl, .inl rfl⟩⟩
    all_goals exact ⟨[], _, rfl, by simp⟩
  · have expression : mode = .expression := by
      revert kinds
      cases quote <;> cases mode <;> decide
    subst expression
    cases quote
    case double => exact ⟨[], _, rfl, by simp⟩
    case single =>
      refine ⟨[property, possessiveOperator], _, rfl, ?_⟩
      rw [List.forall_mem_cons, List.forall_mem_singleton]
      exact ⟨.of_find? rfl ⟨rfl, rfl, .inr rfl⟩, .of_find? rfl ⟨rfl, rfl, .inr rfl⟩⟩

theorem unclosedHook_finds_nothing_at_hookFront {text : Text}
    (success : hookFront.pattern.find? text = some found) :
    unclosedHook.pattern.find? text = none := by
  obtain ⟨cursor, _, _, allowed, same⟩ := Pattern.find?_regex_iff.mp success
  have ahead := (Pattern.find?_splitsOff success).remaining_eq
  rw [find?_hookFront success, same] at ahead
  cases result : unclosedHook.pattern.find? text with
  | none => rfl
  | some unclosed =>
      rcases find?_unclosedHook result with absent | ⟨name, _, named⟩
      · have follows : cursor.rest = '=' :: unclosed.following :=
          (List.cons_eq_cons.mp (ahead.symm.trans absent)).2
        rw [follows] at allowed
        contradiction
      · exact absurd (List.cons_eq_cons.mp (ahead.symm.trans named)).1 (by decide)

end Rule

end PassageMarkup
