import Clearance.Decimal.Shortest
import Clearance.Json.Outcome

/-! Numbers. A numeral without fraction and exponent that fits sixty-four bits is an integer; every
other numeral is a binary fraction, computed from at most sixty-four bits of its digits. -/
namespace Clearance.Json

inductive Number where
  | integer (n : Int)
  | real (x : Float)
  deriving Repr

def Number.found : Number → Found
  | .integer n => .integer n
  | .real x => .real (Decimal.Spelling.plain.ofFloat x)

structure Exponent where
  negative : Bool
  digits : List Nat
  deriving DecidableEq, Repr

/-- A numeral as it is written. An absent fraction has no digits. -/
structure Numeral where
  negative : Bool
  whole : List Nat
  fraction : List Nat
  exponent : Option Exponent
  deriving DecidableEq, Repr

def digitValue (c : Char) : Nat := c.toNat - '0'.toNat

def digitsOf (s : List Char) : List Nat := (s.takeWhile Char.isDigit).map digitValue

def afterDigits (s : List Char) : List Char := s.dropWhile Char.isDigit

/-! ## The grammar

`atEnd` is the cause reported where the text ends inside the numeral. -/

def exponentDigits (atEnd : Cause) (negative : Bool) : Reader Exponent := fun s =>
  match s with
  | [] => brokenHere atEnd []
  | c :: _ =>
    if c.isDigit then .read ⟨negative, digitsOf s⟩ (afterDigits s)
    else brokenAtNext .invalidNumber s

def exponentPart (atEnd : Cause) : Reader (Option Exponent) := fun s =>
  match s with
  | 'e' :: '-' :: rest | 'E' :: '-' :: rest => (exponentDigits atEnd true rest).map some
  | 'e' :: '+' :: rest | 'E' :: '+' :: rest => (exponentDigits atEnd false rest).map some
  | 'e' :: rest | 'E' :: rest => (exponentDigits atEnd false rest).map some
  | rest => .read none rest

def fractionPart (atEnd : Cause) : Reader (List Nat) := fun s =>
  match s with
  | ['.'] => brokenHere atEnd []
  | '.' :: c :: rest =>
    if c.isDigit then .read (digitsOf (c :: rest)) (afterDigits (c :: rest))
    else brokenAtNext .invalidNumber (c :: rest)
  | rest => .read [] rest

/-- A whole part is a single zero or starts with another digit. -/
def wholePart (atEnd : Cause) : Reader (List Nat) := fun s =>
  match s with
  | [] => brokenHere atEnd []
  | '0' :: c :: rest =>
    if c.isDigit then brokenAtNext .invalidNumber (c :: rest) else .read [0] (c :: rest)
  | c :: _ =>
    if c.isDigit then .read (digitsOf s) (afterDigits s) else brokenAtNext .invalidNumber s

def unsignedNumeral (atEnd : Cause) (negative : Bool) : Reader Numeral := fun s =>
  (wholePart atEnd s).bind fun whole s =>
    (fractionPart atEnd s).bind fun fraction s =>
      (exponentPart atEnd s).bind fun exponent s => .read ⟨negative, whole, fraction, exponent⟩ s

def numeral (atEnd : Cause) : Reader Numeral := fun s =>
  match s with
  | '-' :: rest => unsignedNumeral atEnd true rest
  | rest => unsignedNumeral atEnd false rest

/-! ## The value -/

/-- Leading digits that fit sixty-four bits, and the power of ten that they are to be multiplied
by. Once a digit of a part did not fit, the rest of that part is dropped. -/
structure Significand where
  digits : Nat
  power : Int
  full : Bool
  deriving DecidableEq, Repr

def Significand.wholeDigit (s : Significand) (d : Nat) : Significand :=
  if s.full ∨ 0x10000000000000000 ≤ s.digits * 10 + d then ⟨s.digits, s.power + 1, true⟩
  else ⟨s.digits * 10 + d, s.power, false⟩

def Significand.fractionDigit (s : Significand) (d : Nat) : Significand :=
  if s.full ∨ 0x10000000000000000 ≤ s.digits * 10 + d then { s with full := true }
  else ⟨s.digits * 10 + d, s.power - 1, false⟩

def Numeral.wholeSignificand (n : Numeral) : Significand :=
  n.whole.foldl Significand.wholeDigit ⟨0, 0, false⟩

def Numeral.significand (n : Numeral) : Significand :=
  n.fraction.foldl Significand.fractionDigit { n.wholeSignificand with full := false }

/-- The greatest exponent that is computed with. -/
def exponentLimit : Nat := 0x7FFFFFFF

/-- The exponent by its digits, or the number of digits behind the one that exceeds the limit. -/
def exponentValue (value : Nat) : List Nat → Except Nat Nat
  | [] => .ok value
  | d :: rest =>
    if exponentLimit < value * 10 + d then .error rest.length
    else exponentValue (value * 10 + d) rest

def tenTo (n : Nat) : Float := Float.ofScientific 1 false n

/-- Divides by a power of ten, in steps that the format can hold. Four steps reach zero. -/
def divideByTenTo : Nat → Float → Nat → Float
  | 0, x, _ => x
  | steps + 1, x, n =>
    if n ≤ 308 then x / tenTo n
    else if x == 0.0 then x
    else divideByTenTo steps (x / tenTo 308) (n - 308)

/-- The number `digits * 10 ^ power`; none if it exceeds every finite binary fraction. -/
def scaleByTen? (digits : Nat) (power : Int) : Option Float :=
  let x := Float.ofNat digits
  if power < 0 then some (divideByTenTo 4 x power.natAbs)
  else if 308 < power then if x == 0.0 then some x else none
  else
    let y := x * tenTo power.natAbs
    if y.isInf then none else some y

def signed (negative : Bool) (x : Float) : Float := if negative then -x else x

def Numeral.isWhole (n : Numeral) : Bool := n.fraction.isEmpty && n.exponent.isNone

/-- The value of a numeral; for one that is too large, how many of its digits were not needed to
see that. -/
def Numeral.number (n : Numeral) : Except Nat Number :=
  let s := n.significand
  if n.isWhole ∧ ¬ n.wholeSignificand.full ∧
      (n.negative → 0 < s.digits ∧ s.digits ≤ 0x8000000000000000) then
    .ok (.integer (if n.negative then -(s.digits : Int) else s.digits))
  else
    let scaled (power : Int) : Except Nat Number :=
      match scaleByTen? s.digits (s.power + power) with
      | some x => .ok (.real (signed n.negative x))
      | none => .error 0
    match n.exponent with
    | none => scaled 0
    | some e =>
      match exponentValue 0 e.digits with
      | .ok value => scaled (if e.negative then -(value : Int) else value)
      | .error left =>
        if s.digits = 0 ∨ e.negative then .ok (.real (signed n.negative 0.0)) else .error left

def number : Reader Number := fun s =>
  (numeral .endInValue s).bind fun n rest =>
    match n.number with
    | .ok value => .read value rest
    | .error left => .broken ⟨.numberOutOfRange, byteCount rest + left⟩

end Clearance.Json
