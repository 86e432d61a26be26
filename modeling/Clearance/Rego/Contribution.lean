import Clearance.Rego.Evaluation

/-! What a rule gives. The first branch whose body has a solution decides; only the first branch of
a rule fills a set or an object, the others give a single value. -/
namespace Clearance.Rego

/-- Rows without gaps. A row with a gap takes back all rows before it, and no row without one may
follow. -/
def completeRows (rows : List Row) : Except Fault (Option (List (List Value))) :=
  match rows.mapM (·.mapM id) with
  | some complete => return some complete
  | none =>
    let isComplete (row : Row) := row.all Option.isSome
    if (rows.dropWhile isComplete).any isComplete then throw .conflictingOutputs else return none

/-- The one value of some rows. A row without an output stands for `true`. -/
def agreed (rows : List (List Value)) : Except Fault (Option Value) :=
  match rows.map (·.headD (.boolean true)) with
  | [] => return none
  | v :: vs => if vs.all (· == v) then return some v else throw .conflictingOutputs

/-- Puts a value into an object below some keys. A place keeps one value. -/
def addBelow (keys : List Value) (v : Value) (members : List (Value × Value)) :
    Except Fault (List (Value × Value)) :=
  match keys with
  | [] => return members
  | [key] => addMember members key v
  | key :: keys => do
    match members.find? (·.1 == key) with
    | none => return Value.insertMember key (.object (← addBelow keys v [])) members
    | some (_, .object inner) =>
      return Value.insertMember key (.object (← addBelow keys v inner)) members
    | some _ => throw .conflictingKeys

/-- An object of rows, each with some keys and a value that may be left out. -/
def objectBelow (count : Nat) (rows : List (List Value)) : Except Fault Value := do
  let members ← rows.foldlM (fun members row =>
    addBelow (row.take count) ((row[count]?).getD (.boolean true)) members) []
  return .object members

namespace Target

/-- What a rule gives where its body has no solution, or its outputs have no values. -/
def nothing : Target → Option Value
  | .item _ => some (.set [])
  | .member _ => some (.object [])
  | .whole | .function _ => none

/-- The outputs in the head. -/
def heads : Target → List Term
  | .item t => [t]
  | .member keys => keys
  | .whole | .function _ => []

def collect (target : Target) (rows : List (List Value)) : Except Fault (Option Value) :=
  match target with
  | .item _ => return some (Value.setOf rows.flatten)
  | .member keys => return some (← objectBelow keys.length rows)
  | .whole | .function _ => agreed rows

end Target

variable (w : World)

/-- The rows of a branch. If all outputs are written out, one solution of the body is enough. -/
def outputs (l : Locals) (body : List Statement) (terms : List Term) : Evaluation (List Row) :=
  solve w (terms.all Term.isScalar) l.opened (fun l =>
    rangeAll w false false l l (fun l => do
      return [← terms.mapM (Term.select w l [])]) terms) body

namespace Branch

/-- The value of the first branch that has a solution. The outer `none` says that there is none. -/
def firstValue (l : Locals) : List Branch → Evaluation (Option (Option Value))
  | [] => return none
  | b :: rest => do
    match ← outputs w l b.body b.value.toList with
    | [] => firstValue l rest
    | rows =>
      match ← liftExcept (completeRows rows) with
      | none => return some none
      | some rows => return some (← liftExcept (agreed rows))

end Branch

namespace Rule

/-- The value that a rule gives with some variables around it. -/
def valueWith (l : Locals) (r : Rule) : Evaluation (Option Value) := do
  match ← outputs w l r.first.body (r.target.heads ++ r.first.value.toList) with
  | [] =>
    match ← Branch.firstValue w l r.others with
    | none => return r.target.nothing
    | some v => return v.orElse fun _ => r.target.nothing
  | rows =>
    match ← liftExcept (completeRows rows) with
    | none => return r.target.nothing
    | some rows => liftExcept (r.target.collect rows)

/-- What a rule gives to its place. A function gives nothing by itself. -/
def contribution (r : Rule) : Evaluation (Option Value) :=
  if r.isFunction then return none else r.valueWith w .empty

/-- The variables of a function called with some values; none if its parameters do not fit them. -/
def parametersAt (r : Rule) (arguments : List Value) : Evaluation (Option Locals) := do
  match r.target with
  | .function parameters =>
    let a ← tryItems w .once [] 0 arguments (.start Locals.empty.opened []) parameters
    return if a.fits then some a.locals else none
  | _ => return none

def resultAt (r : Rule) (arguments : List Value) : Evaluation (Option Value) := do
  match ← r.parametersAt w arguments with
  | none => return none
  | some l => r.valueWith w l

end Rule

/-- Runs an evaluation whose fault is not one of the whole. -/
def attempted (e : Evaluation α) : Evaluation (Except Fault α) := fun s =>
  match e s with
  | .ok (a, s) => .ok (.ok a, s)
  | .error fault => .ok (.error fault, s)

/-- The result of all definitions of a function. A fault of one of them counts only where no other
has a result. -/
def resultOfAll (definitions : List Rule) (arguments : List Value) : Evaluation (Option Value) := do
  let results ← definitions.mapM fun r => attempted (r.resultAt w arguments)
  let values := results.filterMap fun
    | .ok v => v
    | .error _ => none
  let faults := results.filterMap fun
    | .ok _ => none
    | .error fault => some fault
  match values, faults with
  | [], fault :: _ => throw fault
  | values, _ => liftExcept (agreed (values.map ([·])))

end Clearance.Rego
