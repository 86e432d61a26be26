/-! The shortest decimal that reads back as a given binary fraction.

A positive binary64 number is `mantissa * 2 ^ exponent`. The reals that round to it form an
interval, whose ends belong to it exactly when the mantissa is even. For one digit, two digits and
so on up to seventeen, the two neighbours of the number on that decimal grid are tried; the first
grid with a neighbour inside the interval gives the digits. -/
namespace Clearance.Decimal

/-- The positive rational `num / den`. -/
structure Ratio where
  num : Nat
  den : Nat
  deriving DecidableEq, Repr

def Ratio.le (a b : Ratio) : Bool := a.num * b.den ≤ b.num * a.den

def Ratio.lt (a b : Ratio) : Bool := a.num * b.den < b.num * a.den

/-- `n * base ^ e`. -/
def Ratio.scaled (base n : Nat) (e : Int) : Ratio :=
  if e < 0 then ⟨n, Nat.pow base e.natAbs⟩ else ⟨n * Nat.pow base e.natAbs, 1⟩

/-- A finite positive binary64 number, with the mantissa below `2 ^ 53`. -/
structure Binary where
  mantissa : Nat
  exponent : Int
  deriving DecidableEq, Repr

/-- The number behind the low 63 bits of its binary64 form; zero has no such form. -/
def Binary.ofBits? (bits : Nat) : Option Binary :=
  let fraction : Nat := bits % 0x10000000000000
  let biased : Nat := bits / 0x10000000000000 % 0x800
  if biased = 0 then
    if fraction = 0 then none else some ⟨fraction, -1074⟩
  else some ⟨0x10000000000000 + fraction, (biased : Int) - 1075⟩

namespace Binary

/-- The number in quarters of its last place, so that the ends of its interval are whole. -/
def quarters (b : Binary) (n : Nat) : Ratio := .scaled 2 n (b.exponent - 2)

def value (b : Binary) : Ratio := b.quarters (4 * b.mantissa)

/-- The gap below a power of two is half as wide as the gap above it. -/
def lowEnd (b : Binary) : Ratio :=
  b.quarters (4 * b.mantissa - if b.mantissa = 0x10000000000000 ∧ -1074 < b.exponent then 1 else 2)

def highEnd (b : Binary) : Ratio := b.quarters (4 * b.mantissa + 2)

def isRoundedFrom (b : Binary) (x : Ratio) : Bool :=
  if b.mantissa % 2 = 0 then b.lowEnd.le x && x.le b.highEnd
  else b.lowEnd.lt x && x.lt b.highEnd

end Binary

/-- `digits * 10 ^ exponent`. -/
structure Scientific where
  digits : Nat
  exponent : Int
  deriving DecidableEq, Repr

def Scientific.ratio (d : Scientific) : Ratio := .scaled 10 d.digits d.exponent

/-- The exponent of the leading decimal digit of a positive rational. -/
def leadingExponent (x : Ratio) : Int :=
  if x.den ≤ x.num then ((Nat.toDigits 10 (x.num / x.den)).length : Int) - 1
  else
    let shift := (Nat.toDigits 10 (x.den / x.num)).length - 1
    if x.den ≤ x.num * Nat.pow 10 shift then -(shift : Int) else -(shift + 1 : Int)

/-- The neighbours of `x` on the grid of multiples of `10 ^ unit`. -/
def neighbours (x : Ratio) (unit : Int) : Scientific × Scientific :=
  let scaled := if unit < 0 then x.num * Nat.pow 10 unit.natAbs / x.den
    else x.num / (x.den * Nat.pow 10 unit.natAbs)
  (⟨scaled, unit⟩, ⟨scaled + 1, unit⟩)

/-- Whether `x` lies nearer to the first point than to the second, or is even in a tie. -/
def prefersLow (x : Ratio) (low high : Scientific) : Bool :=
  let twice : Ratio := ⟨2 * x.num, x.den⟩
  let middle : Ratio := .scaled 10 (low.digits + high.digits) low.exponent
  twice.lt middle || (twice.le middle && low.digits % 2 == 0)

def onGrid? (b : Binary) (unit : Int) : Option Scientific :=
  let (low, high) := neighbours b.value unit
  match b.isRoundedFrom low.ratio, b.isRoundedFrom high.ratio with
  | true, true => some (if prefersLow b.value low high then low else high)
  | true, false => some low
  | false, true => some high
  | false, false => none

/-- Drops trailing zero digits. -/
def Scientific.trimmed : Nat → Scientific → Scientific
  | 0, d => d
  | n + 1, d =>
    if d.digits ≠ 0 ∧ d.digits % 10 = 0 then trimmed n ⟨d.digits / 10, d.exponent + 1⟩ else d

/-- The shortest decimal of a positive number. Seventeen digits always suffice. -/
def shortest (b : Binary) : Scientific :=
  let lead := leadingExponent b.value
  let found := (List.range 17).findSome? fun (n : Nat) => onGrid? b (lead - n)
  (found.getD (neighbours b.value (lead - 16)).1).trimmed 20

/-- How a decimal is spelled: positional while the exponent of the leading digit lies between the
bounds, else with an exponent that carries its sign. -/
structure Spelling where
  leastPositional : Int
  greatestPositional : Int
  deriving DecidableEq, Repr

def zeros (n : Nat) : List Char := List.replicate n '0'

/-- The text of a positive decimal. A positional text always has a point. -/
def Spelling.text (style : Spelling) (d : Scientific) : List Char :=
  let digits := Nat.toDigits 10 d.digits
  let lead := d.exponent + digits.length - 1
  if lead < style.leastPositional ∨ style.greatestPositional < lead then
    let mantissa := match digits with
      | first :: next :: rest => first :: '.' :: next :: rest
      | short => short
    mantissa ++ 'e' :: (if lead < 0 then '-' else '+') :: Nat.toDigits 10 lead.natAbs
  else if d.exponent ≥ 0 then digits ++ zeros d.exponent.natAbs ++ ['.', '0']
  else if lead ≥ 0 then digits.take (lead.natAbs + 1) ++ '.' :: digits.drop (lead.natAbs + 1)
  else '0' :: '.' :: zeros (lead.natAbs - 1) ++ digits

/-- Positional from a hundred-thousandth up to sixteen digits before the point. -/
def Spelling.plain : Spelling := ⟨-5, 15⟩

/-- The text of a binary64 number by its bits. -/
def Spelling.ofBits (style : Spelling) (bits : Nat) : String :=
  let sign := if bits / 0x8000000000000000 % 2 = 1 then ['-'] else []
  match Binary.ofBits? (bits % 0x8000000000000000) with
  | none => String.ofList (sign ++ ['0', '.', '0'])
  | some b => String.ofList (sign ++ style.text (shortest b))

def Spelling.ofFloat (style : Spelling) (x : Float) : String := style.ofBits x.toBits.toNat

end Clearance.Decimal
