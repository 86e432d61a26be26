import Clearance.Json.Value
import Clearance.Rego.Fault
import Clearance.Rego.Value
import Clearance.Text.Case

/-! The functions of the policy language that every module has. -/
namespace Clearance.Rego.Builtin

/-! ## Text -/

/-- What is behind the first occurrence of a text. -/
def behindFirst (x : List Char) : List Char → Option (List Char × List Char)
  | [] => if x.isEmpty then some ([], []) else none
  | c :: cs =>
    if x.isPrefixOf (c :: cs) then some ([], (c :: cs).drop x.length)
    else (behindFirst x cs).map fun (before, behind) => (c :: before, behind)

/-- The pieces between the occurrences of a delimiter, read from the left. `count` bounds their
number. -/
def pieces (delimiter : List Char) : Nat → List Char → List (List Char)
  | 0, s => [s]
  | count + 1, s =>
    match behindFirst delimiter s with
    | none => [s]
    | some (before, behind) => before :: pieces delimiter count behind

/-- An empty delimiter is found before each character and at the end. -/
def split (s delimiter : String) : List String :=
  if delimiter.isEmpty then "" :: s.toList.map String.singleton ++ [""]
  else (pieces delimiter.toList s.length s.toList).map String.ofList

/-- The number of sixteen-bit units of a text. -/
def unitCount (s : String) : Nat :=
  s.toList.foldl (fun n c => n + if c.toNat < 0x10000 then 1 else 2) 0

def isInfix (x s : String) : Bool := (behindFirst x.toList s.toList).isSome

/-! ## Numbers -/

/-- A whole text as a number. -/
def readNumber (s : String) : Option Number :=
  match Json.Value.ofText s with
  | .ok (.number n) => some (.ofJson n)
  | _ => none

def numberOf : Value → Option Number
  | .null => some (.ofInt 0)
  | .boolean b => some (.ofInt (if b then 1 else 0))
  | .number n => some n
  | .string s => readNumber s
  | _ => none

def asNumber : Value → Option Number
  | .number n => some n
  | _ => none

def asString : Value → Option String
  | .string s => some s
  | _ => none

/-! ## Collections -/

/-- The items of an array or a set. -/
def itemsOf : Value → Option (List Value)
  | .array items | .set items => some items
  | _ => none

def size : Value → Option Nat
  | .array items | .set items => some items.length
  | .object members => some members.length
  | .string s => some (unitCount s)
  | _ => none

def sum (v : Value) : Option Number := do
  return ((← (← itemsOf v).mapM asNumber).foldl Number.add (.ofInt 0))

def larger (a b : Value) : Value := if a.order b == .lt then b else a

/-- The value at a key, or at the end of a list of keys. -/
def lookUp (v : Value) : Value → Option Value
  | .array keys => keys.foldlM Value.index? v
  | key => v.index? key

def join (delimiter : String) (v : Value) : Option String := do
  return delimiter.intercalate (← (← itemsOf v).mapM asString)

def truth (b : Bool) : Option Value := some (.boolean b)

/-- The value of a function, which the greatest item of nothing does not have. The outer `none` says
that the arguments are not the function's. -/
def value? : String → List Value → Option (Option Value)
  | "count", [v] => (size v).map fun n => some (.ofNat n)
  | "sum", [v] => (sum v).map fun n => some (.number n)
  | "max", [v] => (itemsOf v).map fun
    | [] => none
    | x :: xs => some (xs.foldl larger x)
  | "startswith", [.string s, .string x] => some (truth (x.toList.isPrefixOf s.toList))
  | "endswith", [.string s, .string x] => some (truth (x.toList.isSuffixOf s.toList))
  | "contains", [.string s, .string x] => some (truth (isInfix x s))
  | "split", [.string s, .string x] => some (some (.array ((split s x).map .string)))
  | "concat", [.string x, v] => (join x v).map fun s => some (.string s)
  | "lower", [.string s] => some (some (.string (String.ofList (Text.lower s.toList))))
  | "upper", [.string s] => some (some (.string (String.ofList (Text.upper s.toList))))
  | "to_number", [v] => (numberOf v).map fun n => some (.number n)
  | "is_string", [v] => some (truth (asString v).isSome)
  | "object.get", [.object members, key, other] =>
    some (some ((lookUp (.object members) key).getD other))
  | _, _ => none

/-- The functions with their numbers of arguments. -/
def arities : List (String × Nat) :=
  [("count", 1), ("sum", 1), ("max", 1), ("startswith", 2), ("endswith", 2), ("contains", 2),
    ("split", 2), ("concat", 2), ("lower", 1), ("upper", 1), ("to_number", 1), ("is_string", 1),
    ("object.get", 3)]

def arity? (f : String) : Option Nat := arities.lookup f

def apply (f : String) (arguments : List Value) : Except Fault (Option Value) :=
  match value? f arguments with
  | some v => .ok v
  | none => .error (.wrongArguments f)

end Clearance.Rego.Builtin
