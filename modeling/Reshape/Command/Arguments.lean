import Reshape.Command.Apply

/-! The arguments of a command line. -/
namespace Reshape.Command

/-- What a command line asks for. -/
inductive Request where
  | apply (options : ApplyOptions)
  | filters (group : Option String)
  | version
  | help
deriving DecidableEq, Repr

/-- Options and positional arguments read so far. -/
structure Given where
  positional : List String
  input : Option String
  pretty : Bool
  now : Option String
deriving DecidableEq, Repr

namespace Given

def none : Given := ⟨[], .none, false, .none⟩

/-- Takes a positional argument; there is room for one. -/
def addPositional? (g : Given) (text : String) : Option Given :=
  if g.positional.isEmpty then some { g with positional := [text] } else .none

/-- Takes the input, which may be given once. -/
def setInput? (g : Given) (text : String) : Option Given :=
  if g.input.isSome then .none else some { g with input := some text }

def setNow? (g : Given) (text : String) : Option Given :=
  if g.now.isSome then .none else some { g with now := some text }

def setPretty? (g : Given) : Option Given :=
  if g.pretty then .none else some { g with pretty := true }

end Given

/-- What reading arguments comes to: they are wrong, they ask for help, or they are read. -/
inductive Reading where
  | wrong
  | help
  | given (g : Given)

/-- Whether an argument can be the value of an option, or a positional one. -/
def isPlainArgument (argument : String) : Bool :=
  match argument.toList with
  | ['-'] => true
  | '-' :: _ => false
  | _ => true

/-- A long option with its value after an equals sign, if it has one. -/
def splitLong (option : List Char) : List Char × Option (List Char) :=
  match option.dropWhile (· ≠ '=') with
  | _ :: value => (option.takeWhile (· ≠ '='), some value)
  | [] => (option, .none)

/-- What one letter of a bundle of short options does. -/
inductive ShortResult where
  | wrong
  | help
  | done (g : Given)
  /-- An input option whose value is the next argument. -/
  | needsInput (g : Given)

/-- Reads a bundle of short options. The letter of an option with a value takes the rest of the
bundle, after an equals sign if there is one. -/
def shortOptions (g : Given) : List Char → ShortResult
  | [] => .done g
  | 'p' :: rest =>
    match g.setPretty? with
    | some g => shortOptions g rest
    | .none => .wrong
  | 'h' :: _ => .help
  | 'i' :: rest =>
    let value := match rest with
      | '=' :: value => some value
      | [] => .none
      | value => some value
    match value with
    | .none => if g.input.isSome then .wrong else .needsInput g
    | some value =>
      match g.setInput? (String.ofList value) with
      | some g => .done g
      | .none => .wrong
  | _ => .wrong

/-- All that is left is positional. -/
def positionalOnly (g : Given) : List String → Reading
  | [] => .given g
  | argument :: rest =>
    match g.addPositional? argument with
    | some g => positionalOnly g rest
    | .none => .wrong

/-- An option that takes a value: after an equals sign, or the next argument. -/
def withValue (set? : String → Option Given) (value : Option (List Char)) (rest : List String) :
    Option (Given × List String) :=
  match value, rest with
  | some value, rest => (set? (String.ofList value)).map fun g => (g, rest)
  | .none, next :: rest =>
    if isPlainArgument next then (set? next).map fun g => (g, rest) else .none
  | .none, [] => .none

/-- Reads the arguments of the command that applies a template. -/
def readApply (g : Given) (arguments : List String) : Nat → Reading
  | 0 => .given g
  | fuel + 1 =>
    match arguments with
    | [] => .given g
    | argument :: rest =>
      let proceed (result : Option (Given × List String)) :=
        match result with
        | some (g, rest) => readApply g rest fuel
        | .none => .wrong
      match argument.toList with
      | ['-', '-'] => positionalOnly g rest
      | '-' :: '-' :: option =>
        let (name, value) := splitLong option
        match String.ofList name with
        | "input" => proceed (withValue g.setInput? value rest)
        | "now" => proceed (withValue g.setNow? value rest)
        | "pretty" =>
          if value.isSome then .wrong else proceed (g.setPretty?.map fun g => (g, rest))
        | "help" => if value.isSome then .wrong else .help
        | _ => .wrong
      | ['-'] => proceed ((g.addPositional? argument).map fun g => (g, rest))
      | '-' :: letters =>
        match shortOptions g letters with
        | .wrong => .wrong
        | .help => .help
        | .done g => readApply g rest fuel
        | .needsInput g => proceed (withValue g.setInput? .none rest)
      | _ => proceed ((g.addPositional? argument).map fun g => (g, rest))

/-- Reads the arguments of the command that describes filters. -/
def readFilters (g : Given) : List String → Reading
  | [] => .given g
  | "--" :: rest => positionalOnly g rest
  | argument :: rest =>
    if argument = "--help" then .help
    else if isPlainArgument argument then
      match g.addPositional? argument with
      | some g => readFilters g rest
      | .none => .wrong
    else
      match argument.toList with
      | '-' :: 'h' :: _ => .help
      | _ => .wrong

/-- Reads the arguments of the command that explains a command. -/
def readHelp : List String → Option Request
  | [] => some .help
  | [name] => if ["apply", "filters", "help"].contains name then some .help else .none
  | _ => .none

/-- Reads a whole command line; none when it is wrong. -/
def parseArguments : List String → Option Request
  | "apply" :: rest =>
    match readApply .none rest rest.length with
    | .help => some .help
    | .given ⟨[template], input, pretty, now⟩ => some (.apply ⟨template, input, pretty, now⟩)
    | _ => .none
  | "filters" :: rest =>
    match readFilters .none rest with
    | .help => some .help
    | .given g => some (.filters g.positional.head?)
    | .wrong => .none
  | "help" :: rest => readHelp rest
  | argument :: _ =>
    if argument = "--version" then some .version
    else if argument = "--help" then some .help
    else
      match argument.toList with
      | '-' :: 'V' :: _ => some .version
      | '-' :: 'h' :: _ => some .help
      | _ => .none
  | [] => .none

end Reshape.Command
