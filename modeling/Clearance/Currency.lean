import Clearance.Name
import Clearance.Text.Blank
import Clearance.Text.Case

/-! Currency codes: three capital letters. A code is read from text of any case with blanks around
it; the text is put into capitals before it is judged. -/
namespace Clearance

def isCapital (c : Char) : Bool := 'A' ≤ c && c ≤ 'Z'

def isLetter (c : Char) : Bool := isCapital c || ('a' ≤ c && c ≤ 'z')

def isThreeCapitals (s : String) : Bool := s.toList.length == 3 && s.toList.all isCapital

structure Currency where
  code : String
  isCode : isThreeCapitals code = true
  deriving DecidableEq, Repr

/-- Why a text is no currency code. The text is quoted in capitals and without blanks around it. -/
inductive CurrencyError where
  | emptyCode
  | invalidLength (text : String)
  | invalidFormat (text : String)
  deriving DecidableEq, Repr

def CurrencyError.message : CurrencyError → String
  | .emptyCode => "Empty currency code"
  | .invalidLength text => "Currency code must be exactly 3 letters: " ++ text
  | .invalidFormat text => "Invalid currency code format: " ++ text

namespace Currency

def usd : Currency := ⟨"USD", by decide⟩
def eur : Currency := ⟨"EUR", by decide⟩
def gbp : Currency := ⟨"GBP", by decide⟩
def vnd : Currency := ⟨"VND", by decide⟩

def known : List Currency := [usd, eur, gbp, vnd]

/-- The bytes that a code is kept as. -/
def bytes (c : Currency) : ByteArray := c.code.toUTF8

/-- The text of some bytes. Bytes that are no text have none of their own. -/
def textOf (bytes : ByteArray) : String := (String.fromUTF8? bytes).getD "???"

/-- The text that is judged as a code. -/
def normalized (text : String) : String := String.ofList (Text.upper (Text.trim text.toList))

def ofText (text : String) : Except CurrencyError Currency :=
  let code := normalized text
  if code.isEmpty then .error .emptyCode
  else if ! code.toList.all isLetter then .error (.invalidFormat code)
  else if h : isThreeCapitals code then .ok ⟨code, h⟩
  else .error (.invalidLength code)

/-- The distinct codes of some texts in increasing order. The first text that is no code decides. -/
def sorted (texts : List String) : Except CurrencyError (List String) := do
  let codes ← texts.mapM ofText
  return sortedNames (codes.map (·.code))

end Currency

end Clearance
