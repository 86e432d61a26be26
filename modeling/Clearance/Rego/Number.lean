import Clearance.Decimal.Shortest
import Clearance.Json.Number

/-! The numbers of the policy language: finite decimals of any size. Sums, differences and products
are exact; a quotient keeps its first hundred digits. -/
namespace Clearance.Rego

/-- The number `mantissa * 10 ^ exponent`. What `Number.of` makes has no zero at the end of its
mantissa, so that equal numbers have equal parts. -/
structure Number where
  mantissa : Int
  exponent : Int
  deriving DecidableEq, Repr

namespace Number

def digitCount (n : Nat) : Nat := (Nat.toDigits 10 n).length

def of (mantissa exponent : Int) : Number :=
  if mantissa = 0 then ⟨0, 0⟩
  else
    let digits := mantissa.natAbs
    let trimmed := Decimal.Scientific.trimmed (digitCount digits) ⟨digits, exponent⟩
    ⟨mantissa.sign * trimmed.digits, trimmed.exponent⟩

def ofInt (n : Int) : Number := of n 0

/-! ## Order -/

/-- The power of ten just above a magnitude. -/
def ceiling (a : Number) : Int := a.exponent + digitCount a.mantissa.natAbs

/-- The mantissa that a number has with a smaller exponent. -/
def mantissaAt (a : Number) (exponent : Int) : Int :=
  a.mantissa * (Nat.pow 10 (a.exponent - exponent).natAbs : Nat)

def compareMagnitudes (a b : Number) : Ordering :=
  (compare a.ceiling b.ceiling).then <|
    let exponent := min a.exponent b.exponent
    compare (a.mantissaAt exponent).natAbs (b.mantissaAt exponent).natAbs

def order (a b : Number) : Ordering :=
  (compare a.mantissa.sign b.mantissa.sign).then <|
    if a.mantissa < 0 then b.compareMagnitudes a
    else if a.mantissa = 0 then .eq
    else a.compareMagnitudes b

/-! ## Operations -/

def isZero (a : Number) : Bool := a.mantissa == 0

def neg (a : Number) : Number := ⟨-a.mantissa, a.exponent⟩

def add (a b : Number) : Number :=
  let exponent := min a.exponent b.exponent
  of (a.mantissaAt exponent + b.mantissaAt exponent) exponent

def sub (a b : Number) : Number := a.add b.neg

def mul (a b : Number) : Number := of (a.mantissa * b.mantissa) (a.exponent + b.exponent)

/-- The number of digits that a quotient keeps. -/
def precision : Nat := 100

/-- Division, by a divisor that is not zero. The digits behind the last one that is kept are
dropped. -/
def div (a b : Number) : Number :=
  let shift := precision + 1 + digitCount b.mantissa.natAbs - digitCount a.mantissa.natAbs
  let digits := a.mantissa.natAbs * Nat.pow 10 shift / b.mantissa.natAbs
  let surplus := digitCount digits - precision
  of (a.mantissa.sign * b.mantissa.sign * (digits / Nat.pow 10 surplus : Nat))
    (a.exponent - b.exponent - shift + surplus)

/-- The integer that a number is. -/
def toInt? (a : Number) : Option Int :=
  if 0 ≤ a.exponent then some (a.mantissaAt 0) else none

/-- The remainder of integers has the sign of the dividend. -/
def rem? (a b : Number) : Option Number := do
  return ofInt (Int.tmod (← a.toInt?) (← b.toInt?))

/-- The position in a list that a number stands for. -/
def toIndex? (a : Number) : Option Nat :=
  if 0 ≤ a.mantissa ∧ a.ceiling ≤ 20 then a.toInt?.map Int.toNat else none

/-! ## Numerals -/

def valueOfDigits (digits : List Nat) : Nat := digits.foldl (fun v d => v * 10 + d) 0

/-- The greatest exponent that a number may be written with, of either sign. -/
def exponentLimit : Nat := 0x7FFFFFFFFFFFFFFF

/-- The value of a numeral, exactly. It must also have a value as a JSON number. -/
def ofNumeral? (n : Json.Numeral) : Option Number :=
  let exponent := (n.exponent.map fun e => valueOfDigits e.digits).getD 0
  let negative := (n.exponent.map (·.negative)).getD false
  match n.number with
  | .error _ => none
  | .ok _ =>
    if exponentLimit < exponent then none
    else
      let digits : Int := valueOfDigits (n.whole ++ n.fraction)
      some (of (if n.negative then -digits else digits)
        ((if negative then -(exponent : Int) else exponent) - n.fraction.length))

/-- A binary fraction by its shortest decimal. -/
def ofReal (x : Float) : Number :=
  let bits := x.toBits.toNat
  match Decimal.Binary.ofBits? (bits % 0x8000000000000000) with
  | none => ⟨0, 0⟩
  | some b =>
    let d := Decimal.shortest b
    of (if 0x8000000000000000 ≤ bits then -(d.digits : Int) else d.digits) d.exponent

def ofJson : Json.Number → Number
  | .integer n => ofInt n
  | .real x => ofReal x

end Number

end Clearance.Rego
