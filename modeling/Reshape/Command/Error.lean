import Reshape.Filter.Apply

/-! What can go wrong when a command runs, and how it is told. -/
namespace Reshape

inductive CommandError where
  | transform (cause : ResolveError)
  | invalidJson
  | unreadableFile (path : String)
  | noInput
  | unknownGroup (name : String)
  | invalidTimestamp (text : String)
deriving DecidableEq, Repr

def CommandError.message : CommandError → String
  | .transform cause => "Transform error: " ++ cause.message
  | .invalidJson => "Invalid JSON: the text is not a JSON value"
  | .unreadableFile path => "IO error: cannot read " ++ path
  | .noInput => "No input provided. Use --input or pipe JSON to stdin."
  | .unknownGroup name =>
    "Unknown filter group: '" ++ name ++ "'\nRun 'transmute filters' to see available groups."
  | .invalidTimestamp text =>
    "Invalid --now timestamp '" ++ text ++ "': expected RFC 3339, e.g. 2017-04-11T00:00:00Z"

end Reshape
