import Clearance.Rego.Arrangement
import Clearance.Rego.Builtin
import Clearance.Rego.Contribution
import Clearance.Rego.Parser.Module
import Clearance.Rego.Store

/-! The values of rules, and the answers to queries. A path evaluates the rules that have the
longest part of it, each of them once, so that a fault in any of them shows. A rule that needs its
own value is a fault. -/
namespace Clearance.Rego

/-- Who calls a function. Rules call it by its name or by its path, queries only by its path. -/
inductive Caller where
  | rule
  | query
  deriving DecidableEq, Repr

namespace Module

/-! ## Paths -/

/-- Whether some rule is found at a path or below it. -/
def hasPath (m : Module) (path : List String) : Bool :=
  m.rules.any (path.isPrefixOf ·.path) || m.defaults.any (path.isPrefixOf ·.path)

/-- The longest part of a path, of `count` names at most, at which there is a rule. -/
def longestPath? (m : Module) (path : List String) : Nat → Option (List String)
  | 0 => none
  | count + 1 =>
    let part := path.take (count + 1)
    if m.hasPath part then some part else longestPath? m path count

/-- The names below a path, if it begins with another one. -/
def below? : List String → List String → Option (List String)
  | [], names => some names
  | _ :: _, [] => none
  | x :: path, y :: names => if x == y then below? path names else none

/-! ## Functions -/

/-- The names that a caller knows a function by. -/
def names (m : Module) (c : Caller) (r : Rule) : List String :=
  let path := ".".intercalate ("data" :: m.package ++ r.path)
  match c with
  | .rule => [".".intercalate r.path, path]
  | .query => [path]

/-- The definitions of a function. -/
def definitions (m : Module) (c : Caller) (f : String) : List Rule :=
  m.rules.filter fun r => r.isFunction && (m.names c r).contains f

def arity? (m : Module) (c : Caller) (f : String) : Option Nat :=
  match m.definitions c f with
  | [] => Builtin.arity? f
  | r :: _ => some r.parameters.length

/-! ## Defaults -/

mutual
/-- A default is written out, or comes from comprehensions. -/
def isDefault : Term → Bool
  | .constant _ | .negative (.constant (.number _)) => true
  | .arrayFrom .. | .setFrom .. | .objectFrom .. => true
  | .array items | .set items => areDefaults items
  | .object members => areDefaultMembers members
  | _ => false

def areDefaults : List Term → Bool
  | [] => true
  | t :: ts => isDefault t && areDefaults ts

def areDefaultMembers : List (Term × Term) → Bool
  | [] => true
  | (key, t) :: ts => isDefault key && isDefault t && areDefaultMembers ts
end

/-- Gives a place its default if it has no value. -/
def evaluateDefault (m : Module) (w : World) (d : Default) : Evaluation Unit := do
  if ! isDefault d.value then throw (.wrongDefault (".".intercalate d.path))
  match ← d.value.select w .empty [] with
  | none => return ()
  | some v =>
    let path := m.package ++ d.path
    if ((← get).at? path).isNone then set (← liftExcept ((← get).join path v))

/-! ## Rules -/

/-- Evaluates a rule, in a world in which it is being evaluated, unless that has been done. -/
def evaluateRule (m : Module) (active : List Nat) (inside : List Nat → World) (i : Nat) (r : Rule) :
    Evaluation Unit := do
  if (← get).evaluated.contains i then return ()
  if active.contains i then throw (.recursion (".".intercalate r.path))
  match ← r.contribution (inside (i :: active)) with
  | none => pure ()
  | some v => set (← liftExcept ((← get).join (m.package ++ r.place) v))
  modify fun s => { s with evaluated := i :: s.evaluated }

/-- Evaluates all rules at a path or below it, and then their defaults. -/
def evaluatePath (m : Module) (active : List Nat) (inside : List Nat → World) (path : List String) :
    Evaluation Unit := do
  m.rules.zipIdx.forM fun (r, i) => do
    if path.isPrefixOf r.path then m.evaluateRule active inside i r
  m.defaults.forM fun d => do
    if path.isPrefixOf d.path then m.evaluateDefault (inside active) d

/-! ## Worlds -/

/-- What a path in the data leads to. Outside of all rules, the path of the package and the data as
a whole evaluate everything. -/
def lookData (m : Module) (active : List Nat) (inside : List Nat → World) (names : List String) :
    Evaluation (Option Value) := do
  match below? m.package names with
  | some [] => if active.isEmpty then m.evaluatePath active inside []
  | some rest =>
    match m.longestPath? rest rest.length with
    | some path => m.evaluatePath active inside path
    | none => pure ()
  | none => if active.isEmpty && names.isEmpty then m.evaluatePath active inside []
  return (← get).at? names

def lookDocument (m : Module) (input : Value) (active : List Nat) (inside : List Nat → World)
    (x : String) (names : List String) : Option (Evaluation (Option Value)) :=
  if x == "input" then some (return Value.follow (some input) names)
  else if x == "data" then some (m.lookData active inside names)
  else none

/-- What a name leads to inside the module: a document, a rule, or another path. -/
def look? (m : Module) (input : Value) (active : List Nat) (inside : List Nat → World) (x : String)
    (names : List String) : Option (Evaluation (Option Value)) :=
  match m.lookDocument input active inside x names with
  | some found => some found
  | none =>
    match m.longestPath? (x :: names) (names.length + 1) with
    | some path => some do
      m.evaluatePath active inside path
      return (← get).at? (m.package ++ x :: names)
    | none =>
      match m.imports.find? (·.name == x) with
      | some ⟨_, root :: path, _⟩ =>
        (m.lookDocument input active inside root path).map fun found => do
          return Value.follow (← found) names
      | _ => none

def function? (m : Module) (c : Caller) (inside : World) (f : String) : Option Callable :=
  match m.definitions c f with
  | [] => (Builtin.arity? f).map fun count =>
    ⟨count, false, fun arguments => liftExcept (Builtin.apply f arguments)⟩
  | r :: rest => some
    ⟨r.parameters.length, true, fun arguments => resultOfAll inside (r :: rest) arguments⟩

/-- What the bodies of a module see while some of its rules are being evaluated. Evaluations of
rules and functions nest `depth` deep at most. -/
def world (m : Module) (input : Value) : Nat → List Nat → World
  | 0, _ =>
    { look? := fun x _ => some (throw (.tooDeep x))
      isRule := fun _ => false
      function? := fun f => some ⟨0, false, fun _ => throw (.tooDeep f)⟩ }
  | depth + 1, active =>
    { look? := m.look? input active (world m input depth)
      isRule := fun x => m.rules.any (·.path.head? == some x)
      function? := m.function? .rule (world m input depth active) }

def depthLimit : Nat := 400

/-- What a query sees: the documents, and functions by their paths. -/
def queryWorld (m : Module) (input : Value) : World :=
  let inside := m.world input depthLimit
  { look? := m.lookDocument input [] inside
    isRule := fun _ => false
    function? := m.function? .query (inside []) }

end Module

/-! ## Queries -/

/-- The results of a query. A result has the value of each expression of the query; an expression
without a value has `none`. -/
abbrev QueryResults := List Row

/-- The value that a statement of a query is listed with. -/
def Statement.listed (v : Option Value) : Statement → Option Value
  | .negation _ => some (.boolean true)
  | _ => v

/-- The rows of values of the solutions of a query, each behind the values of the statements before.
-/
def answers (w : World) (l : Locals) (before : Row) : List Statement → Evaluation (List Row)
  | [] => return [before]
  | s :: ss =>
    s.range w false l l fun l => do
      let (v, l) ← s.result w l
      if passes v then answers w l (before ++ [s.listed v]) ss else return []

/-- The value of the first statement of a query, if it ranges over no keys and does not hold. -/
def firstAnswer (w : World) (l : Locals) : List Statement → Evaluation (List Row)
  | [] => return []
  | s :: _ =>
    s.range w false l l fun l => do
      let (v, _) ← s.result w l
      let v := if passes v then none else s.listed v
      return if l.chosen.isEmpty && v.isSome then [[v]] else []

/-- A query whose first statement does not hold still has the value of that statement. -/
def answersOrFirst (w : World) (l : Locals) (statements : List Statement) :
    Evaluation (List Row) := do
  match ← answers w l [] statements with
  | [] => firstAnswer w l statements
  | rows => return rows

/-- A row of values in the order of the text; a row of another length is left as it is. -/
def inTextOrder (positions : List Nat) (row : Row) : Row :=
  if row.length = positions.length then
    (List.range row.length).map fun i => ((positions.zip row).lookup i).join
  else row

/-- Answers a query about a module and an input. -/
def query (m : Module) (input : Value) (text : String) : Except Fault QueryResults := do
  let some m := m.arrange (m.arity? .rule) | throw .unknownVariable
  let some statements := queryOfText? text | throw .malformedQuery
  let around : Surroundings := ⟨["input", "data"], m.arity? .query⟩
  let inside := around.seeing (bodyNames around statements [])
  let some positions := arrangeBody around statements [] | throw .unknownVariable
  let some statements := arrangeEach inside statements | throw .unknownVariable
  let arranged := atPositions positions statements
  let (rows, _) ← answersOrFirst (m.queryWorld input) Locals.empty.opened arranged (.initial m)
  return rows.map (inTextOrder positions)

end Clearance.Rego
