import Clearance.Text.CasedTable
import Clearance.Text.CaseTable

/-! Capital and small forms of text. A capital form may be longer than the text it comes from. -/
namespace Clearance.Text

/-- The capital form of one character: ASCII letters by arithmetic, all others by the tables. -/
def upperChar (c : Char) : List Char :=
  if c.toNat < 0x80 then [c.toUpper] else mapCase upperLong upperRuns c

def lowerChar (c : Char) : List Char :=
  if c.toNat < 0x80 then [c.toLower] else mapCase lowerLong lowerRuns c

def upper (s : List Char) : List Char := s.flatMap upperChar

def isCased (c : Char) : Bool := inRanges casedRanges c

def isCaseIgnorable (c : Char) : Bool := inRanges caseIgnorableRanges c

/-- Whether a text begins with a cased character, those that a word passes over apart. -/
def beginsCased (s : List Char) : Bool := (s.dropWhile isCaseIgnorable).head?.any isCased

/-- The small form of what is to come behind some characters, which are given in reverse. A sigma
that ends a word has a form of its own. -/
def lowerBehind (before : List Char) : List Char → List Char
  | [] => []
  | c :: rest =>
    let form := if c = 'Σ' && beginsCased before && ! beginsCased rest then ['ς'] else lowerChar c
    form ++ lowerBehind (c :: before) rest

def lower (s : List Char) : List Char := lowerBehind [] s

example : upper "uß".toList = "USS".toList := by decide +kernel
example : upper "ſﬃ".toList = "SFFI".toList := by decide +kernel

example : lower "ΟΔΟΣ Σ".toList = "οδος σ".toList := by decide +kernel

end Clearance.Text
