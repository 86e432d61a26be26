/-! Character properties as tables of inclusive code point ranges. -/
namespace Clearance.Text

/-- An inclusive range of code points. -/
structure CodeRange where
  first : Nat
  last : Nat
  deriving DecidableEq, Repr

def CodeRange.has (range : CodeRange) (c : Char) : Bool :=
  range.first ≤ c.toNat && c.toNat ≤ range.last

/-- Reads a flat table `first, last, first, last, …`. -/
def CodeRange.ofPairs : List Nat → List CodeRange
  | first :: last :: rest => ⟨first, last⟩ :: ofPairs rest
  | _ => []

def inRanges (ranges : List CodeRange) (c : Char) : Bool :=
  ranges.any (·.has c)

end Clearance.Text
