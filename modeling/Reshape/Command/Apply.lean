import Reshape.Command.Error
import Reshape.Json.Parser
import Reshape.Template.Transform

/-! Applying a template given as text to input given as text. -/
namespace Reshape.Command

structure ApplyOptions where
  /-- JSON, a single expression, or the name of a file after an at sign. -/
  template : String
  /-- JSON, or the name of a file after an at sign. -/
  input : Option String
  pretty : Bool
  /-- The time that expressions see instead of the current one. -/
  now : Option String
deriving DecidableEq, Repr

/-- The contents of files by their names; none for one that cannot be read. -/
abbrev Files := String → Option String

/-- The text of an argument, taken from a file when it begins with an at sign. -/
def loadSource (files : Files) (argument : String) : Except CommandError String :=
  match argument.toList with
  | '@' :: path =>
    match files (String.ofList path) with
    | some text => .ok text
    | none => .error (.unreadableFile (String.ofList path))
  | _ => .ok argument

/-- Whether a text that is no JSON was still meant as JSON. -/
def looksLikeJson (text : List Char) : Bool :=
  match trimStart text with
  | c :: _ => c == '\x7b' || c == '[' || c == '"'
  | [] => false

/-- Reads a template. A text that is no JSON and does not begin like it is a single expression. -/
def parseTemplate (text : String) : Except CommandError Value :=
  match Json.parse? text.toList with
  | some v => .ok v
  | none =>
    if looksLikeJson text.toList then .error .invalidJson
    else .ok (.ofText (trim text.toList))

def parseInput (text : String) : Except CommandError Value :=
  match Json.parse? text.toList with
  | some v => .ok v
  | none => .error .invalidJson

/-- The time that expressions see: the given one, or else the current time. -/
def parseNow (current : Instant) : Option String → Except CommandError Instant
  | none => .ok current
  | some text =>
    match timestamp? text.toList with
    | some t => .ok t
    | none => .error (.invalidTimestamp text)

/-- Applies a template to input and gives the output as JSON. -/
def apply (files : Files) (current : Instant) (options : ApplyOptions) :
    Except CommandError String := do
  let template ← parseTemplate (← loadSource files options.template)
  let input ← match options.input with
    | some input => .ok input
    | none => .error .noInput
  let scope ← parseInput (← loadSource files input)
  let now ← parseNow current options.now
  let output ← (transform (.at now) scope template).mapError .transform
  .ok (if options.pretty then output.toPrettyJson else output.toJson)

end Reshape.Command
