import PassageMarkup.Proofs.Text.Uncased
import PassageMarkup.Proofs.Token.Nodes

/-!
# Trees without case

A tree loses the case of ASCII letters in every text that comes from its passage: the texts of its
tokens, their names, passages and messages, and the texts at fault.  Kinds, offsets and all other
fields stay.
-/

namespace PassageMarkup

namespace Fault

def uncased : Fault → Fault
  | legacyMacroCall call => legacyMacroCall call.uncased
  | incorrectOperator operator => incorrectOperator operator.uncased
  | unknownMode name => unknownMode name.uncased

theorem uncased_uncased (fault : Fault) : fault.uncased.uncased = fault.uncased := by
  cases fault <;> simp [uncased]

theorem operatorTip_eq_none {operator : Text} (letters : ¬operator.isLetterless = true) :
    operatorTip operator = none := by
  have differs : ∀ known : Text, known.isLetterless = true → operator ≠ known := by
    rintro known letterless rfl
    exact letters letterless
  have unlisted : operator ∉ ["!=".toList, "<>".toList, "><".toList] := by
    intro member
    have letterless : ["!=".toList, "<>".toList, "><".toList].all Text.isLetterless = true := by
      decide
    exact differs operator (List.all_eq_true.mp letterless operator member) rfl
  rw [operatorTip, if_neg (differs _ (by decide)), if_neg (differs _ (by decide)),
    if_neg (differs _ (by decide)), if_neg unlisted, if_neg (differs _ (by decide))]

theorem tip_uncased (fault : Fault) : fault.uncased.tip = fault.tip := by
  cases fault with
  | legacyMacroCall call => rfl
  | unknownMode name => rfl
  | incorrectOperator operator =>
      change operatorTip operator.uncased = operatorTip operator
      by_cases letterless : operator.isLetterless = true
      · rw [Text.uncased_eq_self letterless]
      · have alsoLetters : ¬operator.uncased.isLetterless = true := by
          rwa [Text.isLetterless_uncased]
        rw [operatorTip_eq_none letterless, operatorTip_eq_none alsoLetters]

theorem uncased_statement (fault : Fault) :
    fault.uncased.statement.uncased = fault.statement.uncased := by
  have before : ∀ text after : Text,
      (Text.quoted text.uncased ++ after).uncased = (Text.quoted text ++ after).uncased := by
    intro text after
    rw [Text.uncased_append, Text.uncased_append, Text.uncased_quoted]
  have behind : ∀ text before : Text,
      (before ++ Text.quoted text.uncased).uncased = (before ++ Text.quoted text).uncased := by
    intro text before
    rw [Text.uncased_append, Text.uncased_append, Text.uncased_quoted]
  cases fault with
  | legacyMacroCall call => exact before call _
  | incorrectOperator operator => exact before operator _
  | unknownMode name => exact behind name _

theorem uncased_message (fault : Fault) :
    fault.uncased.message.uncased = fault.message.uncased := by
  rw [message, message, tip_uncased]
  cases fault.tip with
  | none => exact uncased_statement fault
  | some tip =>
      generalize ". ".toList = stop
      simp only [Text.uncased_append, uncased_statement]

end Fault

namespace Fields

def uncased (fields : Fields) : Fields :=
  { fields with
    name := fields.name.map Text.uncased
    message := fields.message.map Text.uncased
    passage := fields.passage.map Text.uncased }

theorem uncased_uncased (fields : Fields) : fields.uncased.uncased = fields.uncased := by
  have twice : ∀ text : Option Text,
      (text.map Text.uncased).map Text.uncased = text.map Text.uncased := by
    intro text
    cases text <;> simp
  simp only [uncased, twice]

theorem uncased_mergeMissing (fields other : Fields) :
    (fields.mergeMissing other).uncased = fields.uncased.mergeMissing other.uncased := by
  have merged : ∀ own missing : Option Text, (own <|> missing).map Text.uncased =
      (own.map Text.uncased <|> missing.map Text.uncased) := by
    intro own missing
    cases own <;> rfl
  simp only [uncased, mergeMissing, merged]

end Fields

namespace Token

mutual

/-- The same tree without case. -/
def uncased : Token → Token
  | ⟨kind, start, stop, text, inner, children, place, fields, fault⟩ =>
    ⟨kind, start, stop, text.uncased, inner.uncased, uncasedList children, place, fields.uncased,
      fault.map Fault.uncased⟩

def uncasedList : List Token → List Token
  | [] => []
  | token :: rest => token.uncased :: uncasedList rest

end

theorem uncasedList_eq_map (tokens : List Token) : uncasedList tokens = tokens.map uncased := by
  induction tokens with
  | nil => rfl
  | cons token rest induction => rw [uncasedList, induction, List.map_cons]

theorem uncased_eq (token : Token) :
    token.uncased =
      { token with
        text := token.text.uncased
        inner := token.inner.uncased
        children := token.children.map uncased
        fields := token.fields.uncased
        fault := token.fault.map Fault.uncased } := by
  cases token
  rw [uncased, uncasedList_eq_map]

@[simp] theorem uncased_kind (token : Token) : token.uncased.kind = token.kind := by
  rw [uncased_eq]

@[simp] theorem uncased_start (token : Token) : token.uncased.start = token.start := by
  rw [uncased_eq]

@[simp] theorem uncased_text (token : Token) : token.uncased.text = token.text.uncased := by
  rw [uncased_eq]

theorem uncased_uncased (token : Token) : token.uncased.uncased = token.uncased := by
  induction token using children_induction with
  | node token induction =>
      have children : (token.children.map uncased).map uncased = token.children.map uncased := by
        rw [List.map_map]
        exact List.map_congr_left induction
      have fault : (token.fault.map Fault.uncased).map Fault.uncased =
          token.fault.map Fault.uncased := by
        cases token.fault <;> simp [Fault.uncased_uncased]
      rw [uncased_eq token.uncased, uncased_eq token]
      simp only [children, fault, Text.uncased_uncased, Fields.uncased_uncased]

theorem uncased_leaf (kind : Kind) (start : Nat) (text place : Text) :
    (leaf kind start text place).uncased = leaf kind start text.uncased place := by
  simp [uncased_eq, leaf, Fields.uncased]

theorem textOf_map_uncased (tokens : List Token) :
    textOf (tokens.map uncased) = (textOf tokens).uncased := by
  induction tokens with
  | nil => rfl
  | cons token rest induction =>
      rw [textOf] at induction
      rw [List.map_cons, textOf, textOf, List.flatMap_cons, List.flatMap_cons, induction,
        Text.uncased_append, uncased_text, textOf]

end Token

end PassageMarkup
