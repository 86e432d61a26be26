import Clearance.Rego.Syntax
import Clearance.Rego.Evaluation

/-! The document of rule values. Several rules may give values to one place: sets and objects are
joined, and all other values must be equal. -/
namespace Clearance.Rego

namespace Value

def joined (old new : Value) : Except Fault Value :=
  if old == new then return old
  else
    match old, new with
    | .set xs, .set ys => return setOf (xs ++ ys)
    | .object xs, .object ys => do
      return .object (← ys.foldlM (fun members (key, v) => addMember members key v) xs)
    | _, _ => throw .conflictingValues

/-- A document with a value joined to what is at a path. -/
def joinedAt (new : Value) : List String → Option Value → Except Fault Value
  | [], none => return new
  | [], some old => old.joined new
  | name :: names, none => do return .object [(.string name, ← joinedAt new names none)]
  | name :: names, some (.object members) => do
    let inner ← joinedAt new names ((object members).index? (.string name))
    return .object (insertMember (.string name) inner members)
  | _ :: _, some _ => throw .conflictingValues

end Value

namespace Store

/-- The value at a path. -/
def at? (s : Store) (path : List String) : Option Value := Value.follow (some s.data) path

def join (path : List String) (v : Value) (s : Store) : Except Fault Store := do
  return { s with data := ← Value.joinedAt v path (some s.data) }

/-- The store in which nothing is evaluated: there is an object above the place of every rule. -/
def initial (m : Module) : Store :=
  let withRule (data : Value) (r : Rule) : Value :=
    (Value.joinedAt (.object []) (m.package ++ r.place.dropLast) (some data)).toOption.getD data
  ⟨m.rules.foldl withRule (.object []), []⟩

end Store

end Clearance.Rego
