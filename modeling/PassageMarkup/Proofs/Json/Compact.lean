import Mathlib.Tactic.IntervalCases
import PassageMarkup.Proofs.Json.Number

/-!
# Compact JSON is unambiguous

A value is known from its form without blanks, also when something stands after it: strings, lists
and objects show where they end, and no number goes on with the comma or bracket that follows it.
The values are those without a `null` of their own, so that `null` is always the infinity.
-/

namespace PassageMarkup

namespace Json

open Text

/-- Reads what stands after a backslash. -/
def readEscape : Text → Option (Char × Text)
  | 'u' :: _ :: _ :: tens :: ones :: rest =>
    some (Char.ofNat (16 * hexadecimalValue tens + hexadecimalValue ones), rest)
  | 'b' :: rest => some ('\x08', rest)
  | 'f' :: rest => some ('\x0c', rest)
  | 'n' :: rest => some ('\n', rest)
  | 'r' :: rest => some ('\r', rest)
  | 't' :: rest => some ('\t', rest)
  | c :: rest => some (c, rest)
  | [] => none

def readEscaped : Text → Option (Char × Text)
  | [] => none
  | c :: rest => if c = '\\' then readEscape rest else some (c, rest)

theorem escapedChar_plain {c : Char} (graphic : ¬ c.toNat < 0x20) (quote : c ≠ '"')
    (backslash : c ≠ '\\') : escapedChar c = [c] := by
  have other {mark : Char} (control : mark.toNat < 0x20) : c ≠ mark := by
    rintro rfl
    exact graphic control
  rw [escapedChar, if_neg quote, if_neg backslash, if_neg (other (by decide)),
    if_neg (other (by decide)), if_neg (other (by decide)), if_neg (other (by decide)),
    if_neg (other (by decide)), if_neg graphic]

theorem readEscaped_escapedChar (c : Char) (rest : Text) :
    readEscaped (escapedChar c ++ rest) = some (c, rest) := by
  by_cases control : c.toNat < 0x20
  · obtain ⟨code, code_eq⟩ : ∃ code, c.toNat = code := ⟨_, rfl⟩
    rw [← Char.ofNat_toNat c]
    rw [code_eq] at control ⊢
    interval_cases code <;> rfl
  · by_cases quote : c = '"'
    · subst quote
      rfl
    · by_cases backslash : c = '\\'
      · subst backslash
        rfl
      · rw [escapedChar_plain control quote backslash]
        exact if_neg backslash

/-- A string shows where it ends. -/
theorem stringText_unique {left right leftRest rightRest : Text}
    (same : stringText left ++ leftRest = stringText right ++ rightRest) :
    left = right ∧ leftRest = rightRest := by
  rw [stringText, stringText, List.append_assoc, List.append_assoc] at same
  apply escaped_unique readEscaped_escapedChar _ _ (List.cons.inj same).2
  · intro rest
    rfl
  · intro rest others same
    exact absurd (List.cons.inj same).1 (by decide)

theorem isScalar_of_mem_decimal {number : Nat} {c : Char} (member : c ∈ Text.decimal number) :
    isScalar c = true :=
  isScalar_of_isDigit (isDigit_of_mem_decimal member)

theorem decimal_ne_numberText (natural : Nat) (number : Binary64) :
    Text.decimal natural ≠ numberText number := by
  intro same
  obtain ⟨c, member, notDigit⟩ := exists_not_isDigit_numberText number
  rw [← same] at member
  rw [isDigit_of_mem_decimal member] at notDigit
  contradiction

/-- A value without a `null` of its own, and with no number that is written as one except the
infinity. -/
inductive IsWritten : Json → Prop where
  | natural (value : Nat) : IsWritten (.natural value)
  | number {value : Binary64} (written : value.IsWritten) : IsWritten (.number value)
  | string (text : Text) : IsWritten (.string text)
  | array {elements : List Json} (written : ∀ element ∈ elements, element.IsWritten) :
      IsWritten (.array elements)
  | object {members : List (Text × Json)} (written : ∀ member ∈ members, member.2.IsWritten) :
      IsWritten (.object members)

/-- The forms of values that differ in their first character. -/
inductive Shape where
  | scalar
  | string
  | array
  | object
deriving DecidableEq

def shape : Json → Shape
  | null | natural _ | number _ => .scalar
  | string _ => .string
  | array _ => .array
  | object _ => .object

/-- The shape of a value that begins with a character, if there is one. -/
def Shape.ofFirst? (c : Char) : Option Shape :=
  if c = '"' then some .string
  else if c = '[' then some .array
  else if c = '\x7b' then some .object
  else if isScalar c then some .scalar
  else none

theorem Shape.ofFirst?_of_isScalar {c : Char} (scalar : isScalar c = true) :
    Shape.ofFirst? c = some .scalar := by
  have other {mark : Char} (notScalar : isScalar mark = false) : c ≠ mark := by
    rintro rfl
    rw [scalar] at notScalar
    contradiction
  rw [ofFirst?, if_neg (other rfl), if_neg (other rfl), if_neg (other rfl), if_pos scalar]

theorem exists_cons_of_scalar {text : Text} (nonempty : text ≠ [])
    (scalars : ∀ c ∈ text, isScalar c = true) :
    ∃ first rest, text = first :: rest ∧ Shape.ofFirst? first = some .scalar := by
  obtain ⟨first, rest, rfl⟩ := List.exists_cons_of_ne_nil nonempty
  exact ⟨first, rest, rfl, Shape.ofFirst?_of_isScalar (scalars first List.mem_cons_self)⟩

theorem numberText_ne_nil (number : Binary64) : numberText number ≠ [] := by
  obtain ⟨c, member, _⟩ := exists_not_isDigit_numberText number
  exact List.ne_nil_of_mem member

theorem exists_cons_compact {value : Json} (written : value.IsWritten) :
    ∃ first rest, value.compact = first :: rest ∧ Shape.ofFirst? first = some value.shape := by
  cases written with
  | natural => exact exists_cons_of_scalar Nat.toDigits_ne_nil fun _ => isScalar_of_mem_decimal
  | number => exact exists_cons_of_scalar (numberText_ne_nil _) fun _ => isScalar_of_mem_numberText
  | string => exact ⟨'"', _, rfl, rfl⟩
  | array => exact ⟨'[', _, rfl, rfl⟩
  | object => exact ⟨'\x7b', _, rfl, rfl⟩

theorem shape_eq_of_compact {left right : Json} {leftRest rightRest : Text}
    (leftWritten : left.IsWritten) (rightWritten : right.IsWritten)
    (same : left.compact ++ leftRest = right.compact ++ rightRest) : left.shape = right.shape := by
  obtain ⟨first, _, leftText, leftShape⟩ := exists_cons_compact leftWritten
  obtain ⟨other, _, rightText, rightShape⟩ := exists_cons_compact rightWritten
  rw [leftText, rightText] at same
  rw [(List.cons.inj same).1, rightShape] at leftShape
  exact (Option.some.inj leftShape).symm

def joined {α : Type} (form : α → Text) : List α → Text
  | [] => []
  | item :: rest => form item ++ if rest.isEmpty then [] else ',' :: joined form rest

theorem compactElements_eq (elements : List Json) :
    compactElements elements = joined compact elements := by
  induction elements with
  | nil => rfl
  | cons value rest induction =>
      cases rest with
      | nil => simp [compactElements, joined]
      | cons => simp [compactElements, joined, induction]

def memberText (member : Text × Json) : Text :=
  stringText member.1 ++ ':' :: member.2.compact

theorem compactMembers_eq (members : List (Text × Json)) :
    compactMembers members = joined memberText members := by
  induction members with
  | nil => rfl
  | cons member rest induction =>
      obtain ⟨key, value⟩ := member
      cases rest with
      | nil => simp [compactMembers, joined, memberText]
      | cons => simp [compactMembers, joined, memberText, induction]

/-- What follows a value or a member goes on with no scalar: the comma before the next one, or the
closing bracket. -/
theorem ends_joined {α : Type} (form : α → Text) (items : List α) {close : Char}
    (closing : isScalar close = false) (rest : Text) :
    Ends isScalar ((if items.isEmpty then [] else ',' :: joined form items) ++ close :: rest) := by
  cases items with
  | nil => simpa [Ends] using closing
  | cons => simp [Ends, isScalar]

theorem joined_unique {α : Type} {form : α → Text} {items others : List α} {close : Char}
    {rest otherRest : Text} (closing : isScalar close = false) (notComma : close ≠ ',')
    (unique : ∀ item ∈ items, ∀ other ∈ others, ∀ {after otherAfter : Text},
      Ends isScalar after → Ends isScalar otherAfter →
        form item ++ after = form other ++ otherAfter → item = other ∧ after = otherAfter)
    (opens : ∀ item ∈ items, ∀ left right, form item ++ left ≠ close :: right)
    (othersOpen : ∀ other ∈ others, ∀ left right, form other ++ left ≠ close :: right)
    (same : joined form items ++ close :: rest = joined form others ++ close :: otherRest) :
    items = others ∧ rest = otherRest := by
  induction items generalizing others with
  | nil =>
      cases others with
      | nil => exact ⟨rfl, (List.cons.inj same).2⟩
      | cons other others =>
          rw [joined, joined, List.append_assoc] at same
          exact absurd same.symm (othersOpen other List.mem_cons_self _ _)
  | cons item items induction =>
      cases others with
      | nil =>
          rw [joined, joined, List.append_assoc] at same
          exact absurd same (opens item List.mem_cons_self _ _)
      | cons other others =>
          rw [joined, joined, List.append_assoc, List.append_assoc] at same
          obtain ⟨rfl, tails⟩ := unique item List.mem_cons_self other List.mem_cons_self
            (ends_joined form items closing rest) (ends_joined form others closing otherRest) same
          rw [List.forall_mem_cons] at opens othersOpen
          have lists : items = others ∧ rest = otherRest := by
            cases items with
            | nil =>
                cases others with
                | nil => exact ⟨rfl, (List.cons.inj tails).2⟩
                | cons => exact absurd (List.cons.inj tails).1 notComma
            | cons =>
                cases others with
                | nil => exact absurd (List.cons.inj tails).1.symm notComma
                | cons =>
                    apply induction _ opens.2 othersOpen.2 (List.cons.inj tails).2
                    intro item member other otherMember
                    exact unique item (.tail _ member) other (.tail _ otherMember)
          exact ⟨by rw [lists.1], lists.2⟩

/-- A value is known from its form and what stands after it. -/
def Unambiguous (value : Json) : Prop :=
  ∀ {other : Json} {rest otherRest : Text}, other.IsWritten → Ends isScalar rest →
    Ends isScalar otherRest → value.compact ++ rest = other.compact ++ otherRest →
      value = other ∧ rest = otherRest

theorem compact_append_ne {value : Json} (written : value.IsWritten) (left right : Text) :
    value.compact ++ left ≠ ']' :: right := by
  intro same
  obtain ⟨first, _, text, shape⟩ := exists_cons_compact written
  rw [text] at same
  rw [(List.cons.inj same).1] at shape
  contradiction

theorem memberText_unique {member other : Text × Json} {rest otherRest : Text}
    (unambiguous : member.2.Unambiguous) (written : other.2.IsWritten) (ends : Ends isScalar rest)
    (otherEnds : Ends isScalar otherRest)
    (same : memberText member ++ rest = memberText other ++ otherRest) :
    member = other ∧ rest = otherRest := by
  rw [memberText, memberText, List.append_assoc, List.append_assoc] at same
  obtain ⟨keys, values⟩ := stringText_unique same
  obtain ⟨value, rests⟩ := unambiguous written ends otherEnds (List.cons.inj values).2
  exact ⟨Prod.ext keys value, rests⟩

theorem unambiguous_natural (natural : Nat) : (Json.natural natural).Unambiguous := by
  intro other rest otherRest written ends otherEnds same
  have shapes := shape_eq_of_compact (.natural natural) written same
  cases written with
  | natural other =>
      obtain ⟨texts, rests⟩ := part_unique (fun _ => isScalar_of_mem_decimal)
        (fun _ => isScalar_of_mem_decimal) ends otherEnds same
      exact ⟨by rw [decimal_injective texts], rests⟩
  | number =>
      obtain ⟨texts, _⟩ := part_unique (fun _ => isScalar_of_mem_decimal)
        (fun _ => isScalar_of_mem_numberText) ends otherEnds same
      exact absurd texts (decimal_ne_numberText _ _)
  | string | array | object => contradiction

theorem unambiguous_number {number : Binary64} (written : number.IsWritten) :
    (Json.number number).Unambiguous := by
  intro other rest otherRest otherWritten ends otherEnds same
  have shapes := shape_eq_of_compact (.number written) otherWritten same
  cases otherWritten with
  | natural =>
      obtain ⟨texts, _⟩ := part_unique (fun _ => isScalar_of_mem_numberText)
        (fun _ => isScalar_of_mem_decimal) ends otherEnds same
      exact absurd texts.symm (decimal_ne_numberText _ _)
  | number otherWritten =>
      obtain ⟨texts, rests⟩ := part_unique (fun _ => isScalar_of_mem_numberText)
        (fun _ => isScalar_of_mem_numberText) ends otherEnds same
      exact ⟨by rw [numberText_injective written otherWritten texts], rests⟩
  | string | array | object => contradiction

theorem unambiguous_string (text : Text) : (Json.string text).Unambiguous := by
  intro other rest otherRest written _ _ same
  have shapes := shape_eq_of_compact (.string text) written same
  cases written with
  | string other =>
      obtain ⟨texts, rests⟩ := stringText_unique same
      exact ⟨by rw [texts], rests⟩
  | natural | number | array | object => contradiction

theorem unambiguous_array {elements : List Json}
    (written : ∀ element ∈ elements, element.IsWritten)
    (unambiguous : ∀ element ∈ elements, element.Unambiguous) :
    (Json.array elements).Unambiguous := by
  intro other rest otherRest otherWritten _ _ same
  have shapes := shape_eq_of_compact (.array written) otherWritten same
  cases otherWritten with
  | @array others othersWritten =>
      rw [compact, compact, compactElements_eq, compactElements_eq] at same
      simp only [List.cons_append, List.append_assoc, List.cons.injEq, true_and,
        List.nil_append] at same
      obtain ⟨lists, rests⟩ := joined_unique rfl (by decide)
        (fun element member other otherMember _ _ =>
          unambiguous element member (othersWritten other otherMember))
        (fun element member => compact_append_ne (written element member))
        (fun other member => compact_append_ne (othersWritten other member)) same
      exact ⟨by rw [lists], rests⟩
  | natural | number | string | object => contradiction

theorem unambiguous_object {members : List (Text × Json)}
    (written : ∀ member ∈ members, member.2.IsWritten)
    (unambiguous : ∀ member ∈ members, member.2.Unambiguous) :
    (Json.object members).Unambiguous := by
  intro other rest otherRest otherWritten _ _ same
  have shapes := shape_eq_of_compact (.object written) otherWritten same
  have opens (member : Text × Json) (left right : Text) :
      memberText member ++ left ≠ '\x7d' :: right := by
    intro same
    exact absurd (List.cons.inj same).1 (by decide)
  cases otherWritten with
  | @object others othersWritten =>
      rw [compact, compact, compactMembers_eq, compactMembers_eq] at same
      simp only [List.cons_append, List.append_assoc, List.cons.injEq, true_and,
        List.nil_append] at same
      obtain ⟨lists, rests⟩ := joined_unique rfl (by decide)
        (fun member inMembers other inOthers _ _ =>
          memberText_unique (unambiguous member inMembers) (othersWritten other inOthers))
        (fun member _ => opens member) (fun member _ => opens member) same
      exact ⟨by rw [lists], rests⟩
  | natural | number | string | array => contradiction

/-- Every value is known from its form and what stands after it. -/
theorem IsWritten.unambiguous {value : Json} (written : value.IsWritten) : value.Unambiguous := by
  induction written with
  | natural value => exact unambiguous_natural value
  | number written => exact unambiguous_number written
  | string text => exact unambiguous_string text
  | array written induction => exact unambiguous_array written induction
  | object written induction => exact unambiguous_object written induction

theorem compact_injective {left right : Json} (leftWritten : left.IsWritten)
    (rightWritten : right.IsWritten) (same : left.compact = right.compact) : left = right := by
  have ends : Ends isScalar [] := by simp [Ends]
  have appended : left.compact ++ [] = right.compact ++ [] := by rw [same]
  exact (leftWritten.unambiguous rightWritten ends ends appended).1

end Json

end PassageMarkup
