import PassageMarkup.Diagnostic
import PassageMarkup.Lex
import PassageMarkup.Token.Json
import PassageMarkup.Token.Outline

/-!
# The command line

The command lexes a file and prints its tree, as an outline or as JSON.  The errors in the tree are
shown on the error stream.
-/

namespace PassageMarkup

namespace Command

/-- What a run is asked to do. -/
structure Request where
  file : Text
  /-- The name of the passage, if it is not that of the file. -/
  place : Option Text := none
  mode : Mode := .prose
  fold : Bool := true
  maxDepth : Nat := 128
  json : Bool := false
deriving DecidableEq, Repr

/-- What can be wrong with the arguments. -/
inductive UsageFault where
  | noFile
  | secondFile (argument : Text)
  | unknownOption (argument : Text)
  | noValue (name : Text)
  | badMode (fault : Fault)
  | badNumber (value : Text)
deriving DecidableEq, Repr

/-- Why a file cannot be read. -/
inductive ReadFault where
  | missing
  | notUtf8
  | other (message : Text)
deriving DecidableEq, Repr

/-- What a run leaves: its exit status and what it writes. -/
structure Result where
  exit : Nat
  stdout : Text
  stderr : Text
deriving DecidableEq, Repr

namespace UsageFault

/-- What to tell the user. -/
def message : UsageFault → Text
  | noFile => "a file is required".toList
  | secondFile argument => "unexpected argument ".toList ++ Text.quoted argument
  | unknownOption argument => "unknown option ".toList ++ Text.quoted argument
  | noValue name => "a value is required for ".toList ++ name
  | badMode fault => fault.message
  | badNumber value => "invalid number ".toList ++ Text.quoted value

end UsageFault

namespace ReadFault

/-- Why a file cannot be read, in words. -/
def message : ReadFault → Text
  | missing => "No such file or directory (os error 2)".toList
  | notUtf8 => "stream did not contain valid UTF-8".toList
  | other message => message

end ReadFault

/-- An argument of a run. -/
inductive Argument where
  | file (path : Text)
  | noFold
  | json
  | place (place : Text)
  | mode (mode : Mode)
  | maxDepth (limit : Nat)

/-- Reads a natural number with an optional plus sign. -/
def readNumber (value : Text) : Except UsageFault Nat :=
  let digits := if value.head? = some '+' then value.drop 1 else value
  if !digits.isEmpty && digits.all Char.isDigit then .ok (Decimal.digitsValue digits)
  else .error (.badNumber value)

/-- Reads an option that takes a value. -/
def readValued (name value : Text) : Except UsageFault Argument :=
  if name = "--place".toList then .ok (.place value)
  else if name = "--mode".toList then
    match Mode.read value with
    | .ok mode => .ok (.mode mode)
    | .error fault => .error (.badMode fault)
  else if name = "--max-depth".toList then (readNumber value).map .maxDepth
  else .error (.unknownOption name)

/-- The options that take a value. -/
def valuedOptions : List Text :=
  ["--place".toList, "--mode".toList, "--max-depth".toList]

/-- Reads the arguments in order.  The value of an option follows it, or stands after an equals
sign. -/
def readArguments : List Text → Except UsageFault (List Argument)
  | [] => .ok []
  | argument :: rest =>
    if argument = "--no-fold".toList then (readArguments rest).map (.noFold :: ·)
    else if argument = "--json".toList then (readArguments rest).map (.json :: ·)
    else if valuedOptions.contains argument then
      match rest with
      | [] => .error (.noValue argument)
      | value :: rest => do
        let first ← readValued argument value
        return first :: (← readArguments rest)
    else if "--".toList.isPrefixOf argument then
      match Text.splitFirst ['='] argument with
      | none => .error (.unknownOption argument)
      | some (name, value) => do
        let first ← readValued name value
        return first :: (← readArguments rest)
    else (readArguments rest).map (.file argument :: ·)

/-- Adds an argument to a request whose file may still be missing. -/
def Request.add (found : Option Text × Request) :
    Argument → Except UsageFault (Option Text × Request)
  | .file path =>
    match found.1 with
    | none => .ok (some path, found.2)
    | some _ => .error (.secondFile path)
  | .noFold => .ok (found.1, { found.2 with fold := false })
  | .json => .ok (found.1, { found.2 with json := true })
  | .place place => .ok (found.1, { found.2 with place := some place })
  | .mode mode => .ok (found.1, { found.2 with mode })
  | .maxDepth maxDepth => .ok (found.1, { found.2 with maxDepth })

/-- Reads a request from the arguments. -/
def Request.ofArguments (arguments : List Text) : Except UsageFault Request := do
  let (file, request) ← (← readArguments arguments).foldlM Request.add (none, { file := [] })
  match file with
  | none => throw .noFile
  | some file => return { request with file }

/-- The last part of a path. -/
def fileName (path : Text) : Text :=
  ((path.splitOn '/').filter fun part => part != [] && part != ['.']).getLastD []

/-- The name of a file without its extension.  A point at the start of a name starts no
extension. -/
def fileStem (path : Text) : Text :=
  let name := fileName path
  match Text.splitLast ['.'] name with
  | none => name
  | some ([], _) => name
  | some (stem, _) => if name = ['.', '.'] then [] else stem

/-- How the text of a request is lexed. -/
def Request.options (request : Request) : Options where
  place := request.place.getD (fileStem request.file)
  mode := request.mode
  fold := request.fold
  maxDepth := request.maxDepth

/-- Lines, each with a line feed. -/
def unlines (lines : List Text) : Text :=
  lines.flatMap fun line => line ++ ['\n']

/-- Runs a request on the text of its file. -/
def runText (request : Request) (content : Text) : Result :=
  let tree := Lex.lex request.options content
  let errors := tree.errors
  { exit := if errors.isEmpty then 0 else 2
    stdout := if request.json then unlines [tree.toJson.pretty] else tree.outline
    stderr := unlines (errors.flatMap (Located.display content request.file)) }

/-- Runs a request on what reading its file gives. -/
def run (request : Request) (content : Except ReadFault ByteArray) : Result :=
  let decoded : Except ReadFault String :=
    match content with
    | .error fault => .error fault
    | .ok bytes =>
      match String.fromUTF8? bytes with
      | none => .error .notUtf8
      | some text => .ok text
  match decoded with
  | .ok text => runText request text.toList
  | .error fault =>
    { exit := 1
      stdout := []
      stderr :=
        unlines ["Failed to read ".toList ++ request.file ++ ": ".toList ++ fault.message] }

end Command

end PassageMarkup
