import Reshape.Command.Error
import Reshape.Filter.Catalog

/-! The texts that describe expressions, templates and filters. -/
namespace Reshape.Command

/-- Fills a text up with spaces to a width. -/
def padEnd (width : Nat) (text : String) : String :=
  text ++ String.ofList (List.replicate (width - text.length) ' ')

def overviewLines : List String := [
  "TRANSMUTE",
  "",
  "Transmute reshapes JSON with a template: a JSON document whose keys and",
  "string values are expressions evaluated against the input.",
  "",
  "EXPRESSIONS",
  "",
  "  name.name         Dotted lookup in the current scope",
  "  ^name.name        Dotted lookup in the root scope",
  "  'text'            Literal text",
  "  [expr]rest        Evaluate rest with expr as its scope",
  "  \x7b\x7b expr \x7d\x7d        Expression embedded in surrounding text",
  "  expr | f(a, b)    Filter pipeline",
  "",
  "KEYS",
  "",
  "  \"@path\": expr     Scope for this level (arrays fan out)",
  "  \"@root\": expr     Root scope for this level",
  "  \"!key\": \x7b...\x7d     Merge the nested object into this level",
  "  \"key[expr]\": ...  Array with one entry per element of expr",
  "  \"key\x7bexpr\x7d\": ...  Nested template evaluated against expr",
  "",
  "FILTER GROUPS",
  ""]

/-- The filters of a group, in the order of the catalog. -/
def filtersOf (group : FilterGroup) : List Filter :=
  Filter.all.filter fun filter => filter.group == group

/-- One line for each group with the names of its filters. -/
def groupLine (group : FilterGroup) : String :=
  "  " ++ padEnd 12 group.name ++ " " ++
    String.intercalate ", " ((filtersOf group).map Filter.name) ++ "\n"

def filtersOverview : String :=
  String.join (overviewLines.map fun line => line ++ "\n") ++
    String.join (FilterGroup.all.map groupLine) ++
    "\nRun 'transmute filters <group>' for details.\n"

/-- One line for a filter: how it is called and what it gives. -/
def filterLine (filter : Filter) : String :=
  "  " ++ padEnd 44 filter.signature ++ " " ++ filter.description ++ "\n"

/-- The description of one group by its name. -/
def groupDocs (name : String) : Except CommandError String :=
  match FilterGroup.ofName? name with
  | some group =>
    .ok (String.ofList (group.name.toList.map Char.toUpper) ++ " FILTERS\n\n" ++
      String.join ((filtersOf group).map filterLine))
  | none => .error (.unknownGroup name)

end Reshape.Command
