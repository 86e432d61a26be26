import Clearance.Json.Literal
import Clearance.Json.Number

/-! Readers of single values: strings, booleans, integers of a given range, optional values. -/
namespace Clearance.Json

/-- The rest of a word whose first letter has been recognised. -/
def word : List Char → Reader Unit
  | [], s => .read () s
  | _ :: _, [] => brokenHere .endInValue []
  | e :: es, c :: s => if c = e then word es s else brokenAtNext .expectedIdent (c :: s)

def startsNumber (c : Char) : Bool := c == '-' || c.isDigit

/-- Reports the value at hand as being of another type than the expected one. Strings, numbers and
words are read first, as they may be broken themselves. -/
def wrongType (expected : String) (s : List Char) : Outcome α :=
  let found (f : Found) (rest : List Char) : Outcome α := .unfit (.wrongType f expected) rest
  let seen : Outcome α := match s with
    | 'n' :: rest => (word ['u', 'l', 'l'] rest).bind fun _ => found .null
    | 't' :: rest => (word ['r', 'u', 'e'] rest).bind fun _ => found (.boolean true)
    | 'f' :: rest => (word ['a', 'l', 's', 'e'] rest).bind fun _ => found (.boolean false)
    | '"' :: rest => (stringTail [] rest).bind fun text => found (.string text)
    | '[' :: _ => found .sequence s
    | '{' :: _ => found .map s
    | c :: _ =>
      if startsNumber c then (number s).bind fun n => found n.found
      else brokenAtNext .expectedValue s
    | [] => brokenHere .expectedValue []
  seen.located

/-- Skips blanks before a value, which has to be there. -/
def valueStart (reader : Reader α) : Reader α := fun s =>
  match skipSpace s with
  | [] => brokenHere .endInValue []
  | c :: rest => reader (c :: rest)

def string : Reader String :=
  valueStart fun s =>
    match s with
    | '"' :: rest => stringTail [] rest
    | s => wrongType "a string" s

def boolean : Reader Bool :=
  valueStart fun s =>
    match s with
    | 't' :: rest => (word ['r', 'u', 'e'] rest).map fun _ => true
    | 'f' :: rest => (word ['a', 'l', 's', 'e'] rest).map fun _ => false
    | s => wrongType "a boolean" s

/-- An integer between two bounds; `kind` names the range. -/
def integerWithin (low high : Int) (kind : String) : Reader Int :=
  valueStart fun s =>
    match s with
    | c :: _ =>
      if startsNumber c then
        Outcome.located <| (number s).bind fun n rest =>
          match n with
          | .integer i => if low ≤ i ∧ i ≤ high then .read i rest else .unfit (.outOfRange i kind) rest
          | .real x => .unfit (.wrongType (Number.real x).found kind) rest
      else wrongType kind s
    | [] => wrongType kind []

def int64 : Reader Int64 :=
  (integerWithin (-0x8000000000000000) 0x7FFFFFFFFFFFFFFF "i64").map Int64.ofInt

def uint64 : Reader UInt64 :=
  (integerWithin 0 0xFFFFFFFFFFFFFFFF "u64").map fun n => UInt64.ofNat n.toNat

def uint32 : Reader UInt32 :=
  (integerWithin 0 0xFFFFFFFF "u32").map fun n => UInt32.ofNat n.toNat

/-- `null`, or a value. -/
def optional (reader : Reader α) : Reader (Option α) := fun s =>
  match skipSpace s with
  | 'n' :: rest => (word ['u', 'l', 'l'] rest).map fun _ => none
  | s => (reader s).map some

/-- The value `null` alone. -/
def null : Reader Unit :=
  valueStart fun s =>
    match s with
    | 'n' :: rest => word ['u', 'l', 'l'] rest
    | s => wrongType "unit" s

/-- A string that has to satisfy a condition; the reason of a refusal is reported as it is. -/
def checkedString (check : String → Except String α) : Reader α := fun s =>
  (string s).bind fun text rest =>
    match check text with
    | .ok a => .read a rest
    | .error reason => .unfit (.refused reason) rest

end Clearance.Json
