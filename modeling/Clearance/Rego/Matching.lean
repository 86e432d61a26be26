import Clearance.Rego.Locals

/-! What is known while a pattern is matched against values, one after another. -/
namespace Clearance.Rego

structure Matching where
  /-- A variable that has a value is compared with it, and not given another one. -/
  compares : Bool
  /-- The value is the last one that the pattern is tried on. A part of the pattern that no value
  had the form of is then a fault. -/
  isLast : Bool
  deriving DecidableEq, Repr

namespace Matching

/-- A pattern that is matched against one value only; it may have another form. -/
def once : Matching := ⟨false, false⟩

def comparing : Matching := ⟨true, false⟩

end Matching

/-- The state of a match: the variables so far, whether all parts fit, and the parts of the pattern
that a value has had the form of. Parts are told apart by their paths, from the inside. -/
structure Attempt where
  locals : Locals
  fits : Bool
  seen : List (List Nat)

namespace Attempt

def start (l : Locals) (seen : List (List Nat)) : Attempt := ⟨l, true, seen⟩

def recognise (part : List Nat) (a : Attempt) : Attempt := { a with seen := part :: a.seen }

def settle (fits : Bool) (a : Attempt) : Attempt := { a with fits }

def bind (m : Matching) (x : String) (v : Value) (a : Attempt) : Attempt :=
  match if m.compares then a.locals.valueOf? x else none with
  | some u => a.settle (u == v)
  | none => { a with locals := a.locals.bind x v }

/-- A value that has not the form of a part. -/
def reject (m : Matching) (part : List Nat) (a : Attempt) : Option Attempt :=
  if m.isLast && ! a.seen.contains part then none else some (a.settle false)

end Attempt

end Clearance.Rego
