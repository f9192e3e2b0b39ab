import Compositor.CommandLine.Simulation

/-!
# The program

The command line over real files and streams.
-/

set_option autoImplicit false

namespace Compositor.CommandLine

/-- What a failure to read a file says about its path. A directory can be opened like a file, and is
recognised when nothing can be read from it. -/
def lookupOfError : IO.Error → FileLookup
  | .inappropriateType none _ _ => .directory
  | .inappropriateType (some _) _ _ => .failed .notADirectory
  | .noFileOrDirectory .. => .failed .notFound
  | .invalidArgument (some _) _ "name too long" => .failed .nameTooLong
  | error => .failed (.stated error.toString)

def lookupPath (path : String) : IO FileLookup := do
  if let some cause := pathFailure? path then return .failed cause
  try
    return .file (← IO.FS.readBinFile path).toList
  catch error =>
    return lookupOfError error

def Command.paths : Command → List String
  | .simulate arguments => arguments.scene :: arguments.options.toList
  | .options => []

def helpText : String :=
  "Usage: compositor <COMMAND>\n\n" ++
    "Commands:\n" ++
    "  simulate  Play a scene on a simulated device and print the final engine state\n" ++
    "  opts      Print the default engine options as JSON\n" ++
    "  help      Print this message\n\n" ++
    "Options of simulate:\n" ++
    "  --scene <SCENE>     Scene JSON\n" ++
    "  --opts <OPTS>       Engine options JSON\n" ++
    "  --frames <FRAMES>   Number of frames to draw\n" ++
    "  --no-native-fences  Simulate a device without fences\n" ++
    "  --no-protected      Simulate a device without protected content\n" ++
    "  --json              Print the final state as JSON\n"

def Usage.text : Usage → String
  | .help | .nothingToDo => helpText
  | .version => "compositor 0.1.0\n"
  | .unknownCommand => "error: unrecognized subcommand\n"
  | .unknownArgument => "error: unexpected argument\n"
  | .needlessValue => "error: unexpected value for an option\n"
  | .repeatedArgument => "error: an option cannot be used multiple times\n"
  | .missingValue => "error: a value is required for an option\n"
  | .malformedValue => "error: invalid value for an option\n"
  | .missingArgument => "error: the scene was not provided\n"

def failureText : List String → String
  | [] => ""
  | [message] => "Error: " ++ message ++ "\n"
  | [message, cause] => "Error: " ++ message ++ "\n\nCaused by:\n    " ++ cause ++ "\n"
  | message :: causes =>
    "Error: " ++ message ++ "\n\nCaused by:\n" ++
      unlines (causes.zipIdx.map fun (cause, index) => "    " ++ Nat.repr index ++ ": " ++ cause)

end Compositor.CommandLine

open Compositor.CommandLine in
def main (arguments : List String) : IO UInt32 := do
  match command arguments with
  | .error usage =>
    if usage.exitCode = 0 then IO.print usage.text else IO.eprint usage.text
    return usage.exitCode.toUInt32
  | .ok command =>
    let found ← command.paths.mapM fun path => do return (path, ← lookupPath path)
    let report := run command fun path => (found.lookup path).getD (.failed .notFound)
    IO.eprint report.messages
    IO.print report.output
    match report.failure with
    | none => return 0
    | some chain =>
      IO.eprint (failureText chain)
      return 1
