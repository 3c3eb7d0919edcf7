import Reshape.Command.Arguments
import Reshape.Command.Docs

/-! Running a command line. -/
namespace Reshape.Command

/-- What a run leaves: its exit code and the texts it writes. -/
structure Outcome where
  code : UInt32
  output : String
  complaint : String
deriving DecidableEq, Repr

namespace Outcome

def success (output : String) : Outcome := ⟨0, output, ""⟩

/-- A command that fails says why. -/
def failure (error : CommandError) : Outcome := ⟨1, "", error.message ++ "\n"⟩

def ofResult : Except CommandError String → Outcome
  | .ok output => success output
  | .error error => failure error

end Outcome

def usage : String := String.join [
  "Usage: transmute <COMMAND>\n\nCommands:\n",
  "  apply <TEMPLATE> [-i, --input <INPUT>] [-p, --pretty] [--now <NOW>]\n",
  "  filters [GROUP]\n",
  "  help\n\nOptions:\n  -h, --help\n  -V, --version\n"]

def version : String := "transmute 0.3.0\n"

/-- Runs a command line. The text piped in is the input when none is given. -/
def run (files : Files) (current : Instant) (arguments : List String) (piped : Option String) :
    Outcome :=
  match parseArguments arguments with
  | none => ⟨2, "", usage⟩
  | some .version => .success version
  | some .help => .success usage
  | some (.filters none) => .success filtersOverview
  | some (.filters (some group)) => .ofResult (groupDocs group)
  | some (.apply options) =>
    let options := { options with input := options.input.or piped }
    .ofResult ((apply files current options).map fun output => output ++ "\n")

end Reshape.Command
