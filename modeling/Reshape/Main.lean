import Reshape.Command.Run
import Std.Time.DateTime.Timestamp

/-! The program: it reads files and standard input, runs the command line and writes the result. -/
namespace Reshape

/-- The files that arguments name after an at sign, with their contents. -/
def readNamedFiles (arguments : List String) : IO (List (String × String)) := do
  let mut found := []
  for argument in arguments do
    match argument.toList with
    | '@' :: path =>
      let path := String.ofList path
      try
        found := (path, ← IO.FS.readFile path) :: found
      catch _ => pure ()
    | _ => pure ()
  return found

/-- Standard input as a text, unless it is a terminal. -/
def readPiped : IO (Option String) := do
  let input ← IO.getStdin
  if ← input.isTty then return none
  let mut text := ""
  let mut line ← input.getLine
  while !line.isEmpty do
    text := text ++ line
    line ← input.getLine
  return some text

/-- The files that the options of a request name. -/
def namedSources : Option Command.Request → List String
  | some (.apply options) => options.template :: options.input.toList
  | _ => []

/-- Whether a request takes its input from standard input. -/
def wantsPiped : Option Command.Request → Bool
  | some (.apply options) => options.input.isNone
  | _ => false

/-- Runs a command line in the world outside and gives the exit code. -/
def runProgram (arguments : List String) : IO UInt32 := do
  let request := Command.parseArguments arguments
  let piped ← if wantsPiped request then readPiped else pure none
  let files ← readNamedFiles (namedSources request ++ piped.toList)
  let now ← Std.Time.Timestamp.now
  let current := (Instant.ofMillis? now.toMillisecondsSinceUnixEpoch.val).getD ⟨0, 0⟩
  let outcome := Command.run (fun path => List.lookup path files) current arguments piped
  (← IO.getStdout).putStr outcome.output
  (← IO.getStderr).putStr outcome.complaint
  return outcome.code

end Reshape

def main (arguments : List String) : IO UInt32 := Reshape.runProgram arguments
