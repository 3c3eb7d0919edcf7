import Reshape.Unicode.CharSet
import Reshape.Unicode.Property

/-! Upper and lower case of texts, by the full mappings of Unicode. -/
namespace Reshape

/-- The text that a case mapping puts in the place of a character outside ASCII. -/
def mapCase (shifts : List Unicode.Shift) (sequences : List (Nat × List Nat)) (c : Char) :
    List Char :=
  match sequences.lookup c.toNat with
  | some sequence => sequence.map Char.ofNat
  | none =>
    match Unicode.shift? shifts c.toNat with
    | some n => [Char.ofNat n]
    | none => [c]

def upperChar (c : Char) : List Char :=
  if c.toNat < 128 then [c.toUpper] else mapCase Unicode.upperShifts Unicode.upperSequences c

def lowerChar (c : Char) : List Char :=
  if c.toNat < 128 then [c.toLower] else mapCase Unicode.lowerShifts Unicode.lowerSequences c

/-- Whether the first character that case does not ignore is a cased one. -/
def meetsCased (text : List Char) : Bool :=
  let ignorable := CharSet.parse Unicode.caseIgnorableRanges
  match text.dropWhile ignorable.contains with
  | [] => false
  | c :: _ => (CharSet.parse Unicode.casedRanges).contains c

/-- The sigma that is written at the end of a word only. -/
def finalSigma : Char := Char.ofNat 0x3C2

def capitalSigma : Char := Char.ofNat 0x3A3

def uppercase (text : List Char) : List Char := text.flatMap upperChar

/-- Lower case of a text that follows the given one, which is reversed. A capital sigma after a
cased character and not before one ends a word. -/
def lowercaseAfter (before : List Char) : List Char → List Char
  | [] => []
  | c :: rest =>
    let here :=
      if c = capitalSigma ∧ meetsCased before ∧ !meetsCased rest then [finalSigma] else lowerChar c
    here ++ lowercaseAfter (c :: before) rest

def lowercase (text : List Char) : List Char := lowercaseAfter [] text

end Reshape
