import PassageMarkup.Command

/-!
# The program

Reads the file that the arguments name and writes the result.
-/

namespace PassageMarkup

/-- Reads a file as bytes. -/
def Command.readFile (path : String) : IO (Except Command.ReadFault ByteArray) := do
  try
    return .ok (← IO.FS.readBinFile path)
  catch error =>
    match error with
    | .noFileOrDirectory .. => return .error .missing
    | other => return .error (.other (toString other).toList)

end PassageMarkup

open PassageMarkup

/-- Runs the command on the arguments of the process. -/
def main (arguments : List String) : IO UInt32 := do
  match Command.Request.ofArguments (arguments.map String.toList) with
  | .error fault =>
    IO.eprintln ("error: " ++ String.ofList fault.message)
    return 2
  | .ok request =>
    let content ← Command.readFile (String.ofList request.file)
    let result := Command.run request content
    IO.print (String.ofList result.stdout)
    IO.eprint (String.ofList result.stderr)
    return UInt32.ofNat result.exit
