/-! The filters that an expression can name, their groups and a short description of each. -/
namespace Reshape

inductive FilterGroup where
  | arithmetic
  | comparison
  | boolean
  | text
  | collection
  | misc
deriving DecidableEq, Repr

namespace FilterGroup

def all : List FilterGroup := [.arithmetic, .comparison, .boolean, .text, .collection, .misc]

def name : FilterGroup → String
  | .arithmetic => "arithmetic"
  | .comparison => "comparison"
  | .boolean => "boolean"
  | .text => "text"
  | .collection => "collection"
  | .misc => "misc"

/-- The group of a name in any ASCII case. -/
def ofName? (name : String) : Option FilterGroup :=
  all.find? fun group => group.name.toList == name.toList.map Char.toLower

end FilterGroup

inductive Filter where
  | add
  | subtract
  | multiply
  | divide
  | increment
  | decrement
  | equal
  | greater
  | greaterEqual
  | less
  | lessEqual
  | and
  | or
  | not
  | toBool
  | fallback
  | choose
  | concat
  | join
  | split
  | replace
  | search
  | trim
  | uppercase
  | lowercase
  | toText
  | toArray
  | push
  | pop
  | pluck
  | prune
  | values
  | keys
  | slice
  | count
  | get
  | put
  | select
  | reduce
  | hash
  | date
  | now
  | fromJson
  | toInt
  | toFloat
deriving DecidableEq, Repr

namespace Filter

def all : List Filter :=
  [.add, .subtract, .multiply, .divide, .increment, .decrement, .equal, .greater, .greaterEqual,
    .less, .lessEqual, .and, .or, .not, .toBool, .fallback, .choose, .concat, .join, .split,
    .replace, .search, .trim, .uppercase, .lowercase, .toText, .toArray, .push, .pop, .pluck,
    .prune, .values, .keys, .slice, .count, .get, .put, .select, .reduce, .hash, .date, .now,
    .fromJson, .toInt, .toFloat]

/-- The name by which expressions call the filter. -/
def name : Filter → String
  | .add => "add"
  | .subtract => "subtract"
  | .multiply => "multiply"
  | .divide => "divide"
  | .increment => "increment"
  | .decrement => "decrement"
  | .equal => "eq"
  | .greater => "gt"
  | .greaterEqual => "gte"
  | .less => "lt"
  | .lessEqual => "lte"
  | .and => "and"
  | .or => "or"
  | .not => "not"
  | .toBool => "bool"
  | .fallback => "default"
  | .choose => "if"
  | .concat => "concat"
  | .join => "join"
  | .split => "split"
  | .replace => "replace"
  | .search => "match"
  | .trim => "trim"
  | .uppercase => "uppercase"
  | .lowercase => "lowercase"
  | .toText => "tostring"
  | .toArray => "array"
  | .push => "push"
  | .pop => "pop"
  | .pluck => "pluck"
  | .prune => "prune"
  | .values => "values"
  | .keys => "keys"
  | .slice => "slice"
  | .count => "count"
  | .get => "get"
  | .put => "set"
  | .select => "filter"
  | .reduce => "reduce"
  | .hash => "hash"
  | .date => "date"
  | .now => "now"
  | .fromJson => "json"
  | .toInt => "int"
  | .toFloat => "float"

def ofName? (name : String) : Option Filter := all.find? fun filter => filter.name == name

def group : Filter → FilterGroup
  | .add => .arithmetic
  | .subtract => .arithmetic
  | .multiply => .arithmetic
  | .divide => .arithmetic
  | .increment => .arithmetic
  | .decrement => .arithmetic
  | .equal => .comparison
  | .greater => .comparison
  | .greaterEqual => .comparison
  | .less => .comparison
  | .lessEqual => .comparison
  | .and => .boolean
  | .or => .boolean
  | .not => .boolean
  | .toBool => .boolean
  | .fallback => .boolean
  | .choose => .boolean
  | .concat => .text
  | .join => .text
  | .split => .text
  | .replace => .text
  | .search => .text
  | .trim => .text
  | .uppercase => .text
  | .lowercase => .text
  | .toText => .text
  | .toArray => .collection
  | .push => .collection
  | .pop => .collection
  | .pluck => .collection
  | .prune => .collection
  | .values => .collection
  | .keys => .collection
  | .slice => .collection
  | .count => .collection
  | .get => .collection
  | .put => .collection
  | .select => .collection
  | .reduce => .collection
  | .hash => .misc
  | .date => .misc
  | .now => .misc
  | .fromJson => .misc
  | .toInt => .misc
  | .toFloat => .misc

/-- How the filter is called. -/
def signature : Filter → String
  | .add => "add(x, ...)"
  | .subtract => "subtract(x, ...)"
  | .multiply => "multiply(x, ...)"
  | .divide => "divide(x, ...)"
  | .increment => "increment"
  | .decrement => "decrement"
  | .equal => "eq(x)"
  | .greater => "gt(x)"
  | .greaterEqual => "gte(x)"
  | .less => "lt(x)"
  | .lessEqual => "lte(x)"
  | .and => "and(x, ...)"
  | .or => "or(x, ...)"
  | .not => "not(x?)"
  | .toBool => "bool"
  | .fallback => "default(x)"
  | .choose => "if(then, else)"
  | .concat => "concat(x, ...)"
  | .join => "join(sep?)"
  | .split => "split(sep?)"
  | .replace => "replace(pattern, with, fallback?, flags?)"
  | .search => "match(pattern, flags?)"
  | .trim => "trim"
  | .uppercase => "uppercase"
  | .lowercase => "lowercase"
  | .toText => "tostring"
  | .toArray => "array(x, ...)"
  | .push => "push(x, ...)"
  | .pop => "pop"
  | .pluck => "pluck(key)"
  | .prune => "prune(key, ...)"
  | .values => "values(exclude?)"
  | .keys => "keys"
  | .slice => "slice(start, end?)"
  | .count => "count"
  | .get => "get(key?)"
  | .put => "set(key, value)"
  | .select => "filter(predicate, ...)"
  | .reduce => "reduce(key?, mode)"
  | .hash => "hash"
  | .date => "date(format?)"
  | .now => "now(format?)"
  | .fromJson => "json"
  | .toInt => "int"
  | .toFloat => "float(precision?)"

/-- What the filter gives, in one line. -/
def description : Filter → String
  | .add => "piped value plus every parameter"
  | .subtract => "piped value minus every parameter"
  | .multiply => "piped value times every parameter"
  | .divide => "piped value divided by every parameter"
  | .increment => "piped value plus one"
  | .decrement => "piped value minus one"
  | .equal => "loose equality with x"
  | .greater => "greater than x, numeric when both sides are numbers"
  | .greaterEqual => "greater than or equal to x"
  | .less => "less than x"
  | .lessEqual => "less than or equal to x"
  | .and => "true when the piped value and every parameter are truthy"
  | .or => "true when the piped value or any parameter is truthy"
  | .not => "negated truthiness of x, or of the piped value"
  | .toBool => "truthiness of the piped value"
  | .fallback => "x when the piped value is falsy"
  | .choose => "then when the piped value is truthy, else otherwise"
  | .concat => "piped value and parameters joined as text"
  | .join => "array elements joined by sep (default `,`)"
  | .split => "string split on sep (default `,`)"
  | .replace => "regular expression replacement; fallback when nothing matches"
  | .search => "match and capture groups, or every match with the `g` flag"
  | .trim => "strip surrounding whitespace"
  | .uppercase => "upper-case a string"
  | .lowercase => "lower-case a string"
  | .toText => "text form of the piped value"
  | .toArray => "piped value as an array, parameters appended"
  | .push => "append parameters to the piped array"
  | .pop => "last element of an array"
  | .pluck => "key of every element of an array"
  | .prune => "keep only the listed object keys"
  | .values => "object values as an array, object values tagged with `_key`"
  | .keys => "object keys, or array indices"
  | .slice => "part of an array or string"
  | .count => "length of an array, string or object"
  | .get => "element of an array, string or object; the scope when bare"
  | .put => "copy of an array, string or object with key replaced; past the end appends"
  | .select => "elements whose predicates are all truthy; legacy form filter('key', 'op', value)"
  | .reduce => "element with the largest or smallest key (longest/shortest deprecated)"
  | .hash => "MD5 hex digest of the piped value as JSON"
  | .date => "reformat a date as json, milliseconds or unix"
  | .now => "current time as json, milliseconds or unix"
  | .fromJson => "parse a JSON string"
  | .toInt => "leading integer of the piped value"
  | .toFloat => "number rounded to precision places (default 2)"

end Filter

end Reshape
