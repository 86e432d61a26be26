import Clearance.Rego.Syntax

/-! The variables of a body while it is solved. They stand in scopes, the innermost first; a
variable may be declared and have no value yet. Where keys between brackets range over a collection,
the value that is chosen at each such place is kept beside the variables. -/
namespace Clearance.Rego

abbrev Scope := List (String × Option Value)

structure Locals where
  scopes : List Scope
  chosen : List (Nat × Value)

namespace Locals

def empty : Locals := ⟨[], []⟩

/-- What a variable stands for, if it is one: perhaps nothing yet. -/
def find? (l : Locals) (x : String) : Option (Option Value) := l.scopes.findSome? (·.lookup x)

def valueOf? (l : Locals) (x : String) : Option Value := (l.find? x).join

def isDeclared (l : Locals) (x : String) : Bool := (l.scopes.headD []).any (·.1 == x)

def opened (l : Locals) : Locals := { l with scopes := [] :: l.scopes }

def put (x : String) (v : Option Value) (l : Locals) : Locals :=
  match l.scopes with
  | [] => { l with scopes := [[(x, v)]] }
  | scope :: outer => { l with scopes := ((x, v) :: scope) :: outer }

/-- Gives a variable its value in the innermost scope. A blank takes any value and keeps none. -/
def bind (x : String) (v : Value) (l : Locals) : Locals :=
  if x == blank then l else l.put x (some v)

def choose (site : Nat) (v : Value) (l : Locals) : Locals :=
  { l with chosen := (site, v) :: l.chosen }

end Locals

end Clearance.Rego
