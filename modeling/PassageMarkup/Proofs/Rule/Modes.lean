import PassageMarkup.Rule.Table
import PassageMarkup.Proofs.Kind

/-!
# Rules and modes

What the table of rules says about the kinds that a mode can make, and about the modes inside
fronts.  A back cannot pass a front that changes the mode.
-/

namespace PassageMarkup

namespace Rule

variable {mode other : Mode} {rule front : Rule}

theorem kind_ne_text (member : rule ∈ ofMode mode) : rule.kind ≠ .text := by
  have table : ∀ rule ∈ ofMode mode, rule.kind ≠ .text := by
    cases mode <;> decide
  exact table rule member

theorem alone_kind (member : rule ∈ ofMode mode) (notFront : rule.front = false)
    (closesNothing : rule.closes = []) :
    rule.kind.isPair = false ∧ rule.kind.isDelimiter = false := by
  have table : ∀ rule ∈ ofMode mode, rule.front = false → rule.closes = [] →
      rule.kind.isPair = false ∧ rule.kind.isDelimiter = false := by
    cases mode <;> decide
  exact table rule member notFront closesNothing

theorem prose_not_isExpression (member : rule ∈ ofMode .prose) :
    rule.kind.isExpression = false := by
  have table : ∀ rule ∈ ofMode .prose, rule.kind.isExpression = false := by
    decide
  exact table rule member

theorem string_kind (member : rule ∈ ofMode .string) (closesNothing : rule.closes = []) :
    rule.kind = .escapedStringChar := by
  have table : ∀ rule ∈ ofMode .string, rule.closes = [] → rule.kind = .escapedStringChar := by
    decide
  exact table rule member closesNothing

theorem string_not_front (member : rule ∈ ofMode .string) : ¬rule.front = true := by
  have table : ∀ rule ∈ ofMode .string, ¬rule.front = true := by
    decide
  exact table rule member

theorem front_innerMode (member : rule ∈ ofMode mode) (isFront : rule.front = true) :
    ∃ inside, rule.innerMode = some inside := by
  have table : ∀ rule ∈ ofMode mode, rule.front = true → rule.innerMode.isSome = true := by
    cases mode <;> decide
  exact Option.isSome_iff_exists.mp (table rule member isFront)

/-- The mode inside a front is the one inside every pair that it can become. -/
theorem pairMode_eq_innerMode (member : rule ∈ ofMode mode) (frontMember : front ∈ ofMode other)
    (isFront : front.front = true) {pair : Kind} (closes : (front.kind, pair) ∈ rule.closes) :
    pair.pairMode = front.innerMode := by
  have table : ∀ rule ∈ ofMode mode, ∀ closed ∈ rule.closes, ∀ front ∈ ofMode other,
      front.front = true → front.kind = closed.1 → closed.2.pairMode = front.innerMode := by
    cases mode <;> cases other <;> decide
  exact table rule member _ closes front frontMember isFront rfl

/-- The search of a back for its front stops at every front that changes the mode inside the pair. -/
theorem stopsAt_or_innerMode_eq (member : rule ∈ ofMode mode) {closed : Kind × Kind}
    (closes : closed ∈ rule.closes) (inside : closed.2.pairMode = some other)
    (frontMember : front ∈ ofMode other) (isFront : front.front = true) :
    rule.stopsAt front.kind front.aka = true ∨ front.innerMode = some other := by
  have table : ∀ rule ∈ ofMode mode, ∀ closed ∈ rule.closes, closed.2.pairMode = some other →
      ∀ front ∈ ofMode other, front.front = true →
      rule.stopsAt front.kind front.aka = true ∨ front.innerMode = some other := by
    cases mode <;> cases other <;> decide
  exact table rule member closed closes inside front frontMember isFront

end Rule

end PassageMarkup
