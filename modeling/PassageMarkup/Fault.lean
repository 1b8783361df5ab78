import PassageMarkup.Text.Quoted

/-!
# Faults

What can be wrong with a passage or with a request: a macro call in the syntax of another story
format, an operator in a spelling that is not valid, and a mode that does not exist.
-/

namespace PassageMarkup

/-- The cause of an error, with the text at fault. -/
inductive Fault where
  | legacyMacroCall (call : Text)
  | incorrectOperator (operator : Text)
  | unknownMode (name : Text)
deriving DecidableEq, Repr

namespace Fault

/-- The name of the kind of fault. -/
def name : Fault → String
  | legacyMacroCall _ => "LegacyMacroCall"
  | incorrectOperator _ => "IncorrectOperator"
  | unknownMode _ => "UnknownMode"

/-- What is wrong. -/
def statement : Fault → Text
  | legacyMacroCall call =>
    Text.quoted call ++
      " is a macro call written in a different story format's syntax".toList
  | incorrectOperator operator => Text.quoted operator ++ " is not a valid operator".toList
  | unknownMode name => "unknown lexing mode ".toList ++ Text.quoted name

/-- What to write instead of an incorrect operator. -/
def operatorTip (operator : Text) : Option Text :=
  if operator = "=>".toList then some "Did you mean '>='?".toList
  else if operator = "=<".toList then some "Did you mean '<='?".toList
  else if operator = "==".toList then some "Please say 'is' rather than '=='".toList
  else if operator ∈ ["!=".toList, "<>".toList, "><".toList] then
    some ("Please say 'is not' rather than '".toList ++ operator ++ "'".toList)
  else if operator = "=".toList then
    some "Please say 'to' or 'into' to set a value, or 'is' to compare values".toList
  else none

/-- What to do about a fault, if there is advice. -/
def tip : Fault → Option Text
  | legacyMacroCall _ =>
    some "Macro calls here are written like (name: value) rather than <<name value>>".toList
  | incorrectOperator operator => operatorTip operator
  | unknownMode _ => some "Expected one of: start, macro, string, verbatim".toList

/-- The statement of a fault, followed by its tip. -/
def message (fault : Fault) : Text :=
  match fault.tip with
  | none => fault.statement
  | some tip => fault.statement ++ ". ".toList ++ tip

end Fault

end PassageMarkup
