import Clearance.Text.Quoted

/-! What can be wrong with a JSON text, where it is wrong, and the wording of each case. -/
namespace Clearance.Json

/-- The kind of value that stood where another one was expected. -/
inductive Found where
  | null
  | boolean (b : Bool)
  | integer (n : Int)
  | real (shown : String)
  | string (s : String)
  | sequence
  | map
  deriving DecidableEq, Repr

/-- A well-formed value that is not of the expected type. -/
inductive Mismatch where
  | wrongType (found : Found) (expected : String)
  | outOfRange (n : Int) (expected : String)
  | wrongLength (length : Nat) (expected : String)
  | missingField (name : String)
  | repeatedField (name : String)
  | unknownVariant (given : String) (known : List String)
  | refused (reason : String)
  deriving DecidableEq, Repr

inductive Cause where
  | endInList
  | endInObject
  | endInString
  | endInValue
  | expectedColon
  | expectedListCommaOrEnd
  | expectedObjectCommaOrEnd
  | expectedIdent
  | expectedValue
  | invalidEscape
  | invalidNumber
  | numberOutOfRange
  | keyNotString
  | loneSurrogate
  | controlCharacter
  | trailingComma
  | trailingCharacters
  | endOfHexEscape
  | tooDeep
  | mismatch (m : Mismatch)
  deriving DecidableEq, Repr

/-- A fault lies where the stated number of bytes of the text is still unread. -/
structure Fault where
  cause : Cause
  unread : Nat
  deriving DecidableEq, Repr

/-- Lines count from one; the column counts the bytes before the place on its line. -/
structure Position where
  line : Nat
  column : Nat
  deriving DecidableEq, Repr

/-- A refused text. A value that is refused as a whole has no position. -/
structure Error where
  cause : Cause
  position : Option Position
  deriving DecidableEq, Repr

def ticked (s : String) : String := "`" ++ s ++ "`"

def Found.message : Found → String
  | .null => "null"
  | .boolean b => "boolean " ++ ticked (if b then "true" else "false")
  | .integer n => "integer " ++ ticked (toString n)
  | .real shown => "floating point " ++ ticked shown
  | .string s => "string " ++ Text.quoted s
  | .sequence => "sequence"
  | .map => "map"

def Mismatch.message : Mismatch → String
  | .wrongType found expected => "invalid type: " ++ found.message ++ ", expected " ++ expected
  | .outOfRange n expected =>
    "invalid value: integer " ++ ticked (toString n) ++ ", expected " ++ expected
  | .wrongLength n expected => "invalid length " ++ toString n ++ ", expected " ++ expected
  | .missingField name => "missing field " ++ ticked name
  | .repeatedField name => "duplicate field " ++ ticked name
  | .unknownVariant given known =>
    "unknown variant " ++ ticked given ++ ", expected one of " ++
      ", ".intercalate (known.map ticked)
  | .refused reason => reason

def Cause.message : Cause → String
  | .endInList => "EOF while parsing a list"
  | .endInObject => "EOF while parsing an object"
  | .endInString => "EOF while parsing a string"
  | .endInValue => "EOF while parsing a value"
  | .expectedColon => "expected `:`"
  | .expectedListCommaOrEnd => "expected `,` or `]`"
  | .expectedObjectCommaOrEnd => "expected `,` or `\x7d`"
  | .expectedIdent => "expected ident"
  | .expectedValue => "expected value"
  | .invalidEscape => "invalid escape"
  | .invalidNumber => "invalid number"
  | .numberOutOfRange => "number out of range"
  | .keyNotString => "key must be a string"
  | .loneSurrogate => "lone leading surrogate in hex escape"
  | .controlCharacter => "control character (\\u0000-\\u001F) found while parsing a string"
  | .trailingComma => "trailing comma"
  | .trailingCharacters => "trailing characters"
  | .endOfHexEscape => "unexpected end of hex escape"
  | .tooDeep => "recursion limit exceeded"
  | .mismatch m => m.message

def Position.message (p : Position) : String :=
  " at line " ++ toString p.line ++ " column " ++ toString p.column

def Error.message (e : Error) : String :=
  e.cause.message ++ (e.position.map Position.message).getD ""

end Clearance.Json
