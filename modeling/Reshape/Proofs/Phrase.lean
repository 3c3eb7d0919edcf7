import Reshape.Proofs.Balanced

/-! The written forms of expressions: phrases, each of which is one token, with white space between
them. -/
namespace Reshape

/-- White space, possibly none. -/
structure Blanks where
  chars : List Char
  blank : ∀ c ∈ chars, isBlank c = true

theorem isBlank_of_mem_nil : ∀ c ∈ [], isBlank c = true := List.forall_mem_nil _

def Blanks.empty : Blanks := ⟨[], isBlank_of_mem_nil⟩

def isWordChar (c : Char) : Bool := !isDelimiter c && !isBlank c && c != '|'

/-- A text of plain characters without white space and bars. -/
structure Word where
  chars : List Char
  nonempty : chars ≠ []
  plain : ∀ c ∈ chars, isWordChar c = true

/-- A word that no caret begins. -/
structure Name extends Word where
  uncareted : chars.head? ≠ some '^'

/-- The characters that a parameter may have outside its quotes and enclosures. -/
def isParamChar (c : Char) : Bool := c != ',' && !isBlank c

/-- A parameter with the white space around it. -/
structure Param where
  before : Blanks
  text : List Char
  after : Blanks
  nonempty : text ≠ []
  balanced : BalancedBy isParamChar text

/-- What stands between the parentheses of a call or filter. -/
inductive Params where
  | none (gap : Blanks)
  | listed (first : Param) (rest : List Param)

/-- The scope that a path carries behind it. A second brace at its start would open an embedded
expression. -/
inductive Suffix where
  | brackets (inner : List Char) (balanced : Balanced inner)
  | braces (inner : List Char) (balanced : Balanced inner) (single : inner.head? ≠ some '{')

/-- A token without filters. -/
inductive Primary where
  | path (rooted : Bool) (name : Name)
  | literal (text : List Char) (unquoted : '\'' ∉ text)
  | scopeSwitch (rooted : Bool) (inner : List Char) (balanced : Balanced inner)
  | embedded (rooted : Bool) (inner : List Char) (balanced : Balanced inner)
  | call (name : Name) (params : Params)
  | suffixed (rooted : Bool) (name : Name) (suffix : Suffix)

/-- A filter behind a bar, with the white space around the bar. -/
structure Pipe where
  before : Blanks
  after : Blanks
  name : Word
  params : Option Params

structure Phrase where
  primary : Primary
  pipes : List Pipe

def Param.print (p : Param) : List Char := p.before.chars ++ (p.text ++ p.after.chars)

/-- Parameters that follow another one. -/
def printMore : List Param → List Char
  | [] => []
  | p :: rest => ',' :: (p.print ++ printMore rest)

def Params.print : Params → List Char
  | none gap => '(' :: (gap.chars ++ [')'])
  | listed first rest => '(' :: (first.print ++ (printMore rest ++ [')']))

def Suffix.print : Suffix → List Char
  | brackets inner _ => '[' :: (inner ++ [']'])
  | braces inner _ _ => '{' :: (inner ++ ['}'])

def printCaret (rooted : Bool) : List Char := if rooted then ['^'] else []

def Primary.print : Primary → List Char
  | path rooted name => printCaret rooted ++ name.chars
  | literal text _ => '\'' :: (text ++ ['\''])
  | scopeSwitch rooted inner _ => printCaret rooted ++ '[' :: (inner ++ [']'])
  | embedded rooted inner _ => printCaret rooted ++ '{' :: '{' :: (inner ++ ['}', '}'])
  | call name params => name.chars ++ params.print
  | suffixed rooted name suffix => printCaret rooted ++ (name.chars ++ suffix.print)

def Pipe.print (f : Pipe) : List Char :=
  f.before.chars ++ '|' :: (f.after.chars ++ (f.name.chars ++ (f.params.map Params.print).getD []))

def printPipes (pipes : List Pipe) : List Char := pipes.flatMap Pipe.print

def Phrase.print (d : Phrase) : List Char := d.primary.print ++ printPipes d.pipes

/-- An expression: phrases with white space before each of them and at the end. -/
def printPhrases (trailing : Blanks) : List (Blanks × Phrase) → List Char
  | [] => trailing.chars
  | (gap, d) :: rest => gap.chars ++ (d.print ++ printPhrases trailing rest)

/-- Every phrase but the first one has white space before it. -/
def Separated (phrases : List (Blanks × Phrase)) : Prop := ∀ d ∈ phrases.tail, d.1.chars ≠ []

def Params.texts : Params → List String
  | none _ => []
  | listed first rest => (first :: rest).map fun p => String.ofList p.text

/-- The expression between brackets or braces; none when nothing stands there. -/
def innerTexts (inner : List Char) : List String :=
  if inner = [] then [] else [String.ofList inner]

def Suffix.shape : Suffix → Shape
  | brackets _ _ => .array
  | braces _ _ _ => .object

def Suffix.inner : Suffix → List Char
  | brackets inner _ => inner
  | braces inner _ _ => inner

/-- What a primary says, apart from its place. -/
def Primary.token : Primary → Token
  | path rooted name => { Token.empty with body := String.ofList name.chars, rooted := rooted }
  | literal text _ => { Token.empty with kind := .literal, body := String.ofList text }
  | scopeSwitch rooted inner _ =>
    { Token.empty with kind := .scopeSwitch, rooted := rooted, inner := innerTexts inner }
  | embedded rooted inner _ =>
    { Token.empty with kind := .embedded, rooted := rooted, body := String.ofList inner }
  | call name params =>
    { Token.empty with kind := .call, body := String.ofList name.chars, inner := params.texts }
  | suffixed rooted name suffix =>
    { Token.empty with
      body := String.ofList name.chars, rooted := rooted, shape := some suffix.shape
      inner := innerTexts suffix.inner }

def Pipe.call (f : Pipe) : FilterCall :=
  ⟨String.ofList f.name.chars, (f.params.map Params.texts).getD []⟩

/-- The token of a phrase that begins at a place. -/
def Phrase.token (d : Phrase) (start : Nat) : Token :=
  { d.primary.token with
    filters := d.pipes.map Pipe.call
    source := String.ofList d.print
    start := start
    stop := start + d.print.length }

/-- The tokens of phrases that are written from a place on. -/
def phraseTokens (place : Nat) : List (Blanks × Phrase) → List Token
  | [] => []
  | (gap, d) :: rest =>
    let start := place + gap.chars.length
    d.token start :: phraseTokens (start + d.print.length) rest

end Reshape
