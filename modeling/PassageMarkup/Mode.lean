import PassageMarkup.Fault

/-!
# Modes

A mode is a group of rules that are live together: those of prose, of expressions, of the inside
of a string, and of verbatim text.
-/

namespace PassageMarkup

/-- What kind of text is being read. -/
inductive Mode where
  /-- Passage prose: markup of lines and inside lines. -/
  | prose
  /-- The inside of a macro call or of a group in parentheses. -/
  | expression
  /-- The inside of a string. -/
  | string
  /-- The inside of a verbatim span, where only its delimiters are live. -/
  | verbatim
deriving DecidableEq, Repr

namespace Mode

/-- The name of a mode. -/
def name : Mode → String
  | prose => "start"
  | expression => "macro"
  | string => "string"
  | verbatim => "verbatim"

/-- Every mode. -/
def all : List Mode :=
  [prose, expression, string, verbatim]

/-- The mode with a given name. -/
def read (name : Text) : Except Fault Mode :=
  match all.find? fun mode => mode.name.toList == name with
  | some mode => .ok mode
  | none => .error (.unknownMode name)

end Mode

end PassageMarkup
