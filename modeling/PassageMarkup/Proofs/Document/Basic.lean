import PassageMarkup.Proofs.Rule.Written
import PassageMarkup.Proofs.Token.Nodes

/-!
# Well-nested documents

A document is a list of plain runs, collapsed markup, named hooks and macro calls.  The arguments of
a call are a list of commas, variables, strings, calls, groups and hooks, and a hook has a document
inside it again.  A document can be written out as a passage, and it says which tokens the passage
should have.
-/

namespace PassageMarkup

def isPunctuation (c : Char) : Bool :=
  '!' ≤ c && c ≤ '/' || ':' ≤ c && c ≤ '@' || '[' ≤ c && c ≤ '\x60' || '\x7b' ≤ c && c ≤ '~'

/-- Tells whether a character neither ends a line nor can be part of markup by itself. -/
def isPlain (c : Char) : Bool :=
  c != '\n' && !isPunctuation c

/-- Text without punctuation inside one line. -/
structure PlainRun where
  text : Text
  nonempty : text ≠ []
  plain : ∀ c ∈ text, isPlain c = true

/-- A name of a macro or hook. -/
abbrev CallName : Type :=
  { name : Text // IsCallName name }

/-- A name of a variable. -/
abbrev ValueName : Type :=
  { name : Text // IsValueName name }

/-- The inside of a string in double quotes without protected characters. -/
abbrev StringContent : Type :=
  { content : Text // '"' ∉ content ∧ '\\' ∉ content }

mutual

/-- A part of a document. -/
inductive Piece where
  | plain (run : PlainRun)
  | collapsed (inner : List Piece)
  | hook (name : CallName) (inner : List Piece)
  | call (name : CallName) (arguments : List Argument)

/-- A part of the arguments of a macro call. -/
inductive Argument where
  | comma
  | value (name : ValueName)
  | string (content : StringContent)
  | call (name : CallName) (arguments : List Argument)
  | group (arguments : List Argument)
  | hook (inner : List Piece)

end

/-- A passage whose brackets and quotes all belong together. -/
abbrev Document : Type :=
  List Piece

/-- What stands between the name and the end of a macro call. -/
abbrev Arguments : Type :=
  List Argument

mutual

/-- The text of a part of a document. -/
def Piece.render : Piece → Text
  | .plain run => run.text
  | .collapsed inner => ['\x7b'] ++ Document.render inner ++ ['\x7d']
  | .hook name inner => ['|'] ++ name.1 ++ ['>', '['] ++ Document.render inner ++ [']']
  | .call name arguments => ['('] ++ name.1 ++ [':'] ++ Arguments.render arguments ++ [')']

def Document.render : List Piece → Text
  | [] => []
  | piece :: rest => piece.render ++ Document.render rest

def Argument.render : Argument → Text
  | .comma => [',']
  | .value name => '$' :: name.1
  | .string content => ['"'] ++ content.1 ++ ['"']
  | .call name arguments => ['('] ++ name.1 ++ [':'] ++ Arguments.render arguments ++ [')']
  | .group arguments => ['('] ++ Arguments.render arguments ++ [')']
  | .hook inner => ['['] ++ Document.render inner ++ [']']

def Arguments.render : List Argument → Text
  | [] => []
  | argument :: rest => argument.render ++ Arguments.render rest

end

mutual

/-- How deep brackets and quotes nest in a part of a document. -/
def Piece.depth : Piece → Nat
  | .plain _ => 0
  | .collapsed inner => Document.depth inner + 1
  | .hook _ inner => Document.depth inner + 1
  | .call _ arguments => Arguments.depth arguments + 1

def Document.depth : List Piece → Nat
  | [] => 0
  | piece :: rest => max piece.depth (Document.depth rest)

def Argument.depth : Argument → Nat
  | .comma => 0
  | .value _ => 0
  | .string _ => 1
  | .call _ arguments => Arguments.depth arguments + 1
  | .group arguments => Arguments.depth arguments + 1
  | .hook inner => Document.depth inner + 1

def Arguments.depth : List Argument → Nat
  | [] => 0
  | argument :: rest => max argument.depth (Arguments.depth rest)

end

def Piece.isPlain : Piece → Bool
  | .plain _ => true
  | _ => false

/-- Tells whether a document begins with a plain run. -/
def Document.startsPlain : List Piece → Bool
  | [] => false
  | piece :: _ => piece.isPlain

mutual

/-- No two plain runs stand side by side inside a part of a document. -/
def Piece.Separated : Piece → Prop
  | .plain _ => True
  | .collapsed inner => Document.Separated inner
  | .hook _ inner => Document.Separated inner
  | .call _ arguments => Arguments.Separated arguments

def Document.Separated : List Piece → Prop
  | [] => True
  | piece :: rest =>
    piece.Separated ∧ Document.Separated rest ∧
      (piece.isPlain = true → Document.startsPlain rest = false)

def Argument.Separated : Argument → Prop
  | .comma => True
  | .value _ => True
  | .string _ => True
  | .call _ arguments => Arguments.Separated arguments
  | .group arguments => Arguments.Separated arguments
  | .hook inner => Document.Separated inner

def Arguments.Separated : List Argument → Prop
  | [] => True
  | argument :: rest => argument.Separated ∧ Arguments.Separated rest

end

/-- The token of a pair with the texts of its front, its inside and its back.  The tokens inside
depend on where the front ends. -/
def Token.ofPair (kind : Kind) (name : Option Text) (place : Text) (start : Nat)
    (front inner back : Text) (children : Nat → List Token) : Token :=
  { leaf kind start (front ++ inner ++ back) place with
    inner := inner
    children := children (start + front.length)
    fields := { name } }

def Token.ofVariable (place : Text) (start : Nat) (name : Text) : Token :=
  { leaf .storyVariable start ('$' :: name) place with fields := { name := some name } }

/-- The tokens inside a string, of which there are none when it is empty. -/
def Token.ofContent (place content : Text) (start : Nat) : List Token :=
  if content = [] then [] else [.leaf .text start content place]

theorem Token.kind_of_mem_ofContent {place content : Text} {start : Nat} {token : Token}
    (member : token ∈ ofContent place content start) : token.kind = .text := by
  unfold ofContent at member
  split at member
  · contradiction
  · rw [List.mem_singleton.mp member]
    rfl

@[simp] theorem Token.textOf_ofContent (place content : Text) (start : Nat) :
    textOf (ofContent place content start) = content := by
  unfold ofContent
  split
  · rename_i empty
    rw [empty]
    rfl
  · simp [textOf, leaf]

@[simp] theorem Token.coalesce_ofContent (place content : Text) (start : Nat) :
    coalesce (ofContent place content start) = ofContent place content start := by
  unfold ofContent
  split <;> rfl

mutual

/-- The token of a part of a document that is written from `start` on. -/
def Piece.token (place : Text) (start : Nat) : Piece → Token
  | .plain run => .leaf .text start run.text place
  | .collapsed inner =>
    .ofPair .collapsed none place start ['\x7b'] (Document.render inner) ['\x7d'] fun start =>
      Document.forest place start inner
  | .hook name inner =>
    .ofPair .hook (some name.1) place start (['|'] ++ name.1 ++ ['>', '['])
      (Document.render inner) [']'] fun start => Document.forest place start inner
  | .call name arguments =>
    .ofPair .macroCall (some name.1) place start (['('] ++ name.1 ++ [':'])
      (Arguments.render arguments) [')'] fun start => Arguments.forest place start arguments

/-- The tokens of a document that is written from `start` on. -/
def Document.forest (place : Text) (start : Nat) : List Piece → List Token
  | [] => []
  | piece :: rest =>
    piece.token place start :: Document.forest place (start + piece.render.length) rest

def Argument.token (place : Text) (start : Nat) : Argument → Token
  | .comma => .leaf .comma start [','] place
  | .value name => .ofVariable place start name.1
  | .string content =>
    .ofPair .string none place start ['"'] content.1 ['"'] (Token.ofContent place content.1)
  | .call name arguments =>
    .ofPair .macroCall (some name.1) place start (['('] ++ name.1 ++ [':'])
      (Arguments.render arguments) [')'] fun start => Arguments.forest place start arguments
  | .group arguments =>
    .ofPair .grouping none place start ['('] (Arguments.render arguments) [')'] fun start =>
      Arguments.forest place start arguments
  | .hook inner =>
    .ofPair .hook none place start ['['] (Document.render inner) [']'] fun start =>
      Document.forest place start inner

def Arguments.forest (place : Text) (start : Nat) : List Argument → List Token
  | [] => []
  | argument :: rest =>
    argument.token place start :: Arguments.forest place (start + argument.render.length) rest

end

end PassageMarkup
