import Clearance.Rego.Names

/-! The order in which the statements of a body are solved. A statement waits until the variables
that it uses can have values. Those that give no variable a value come as early as they can; of the
others, those for the first name in the alphabet come first. A body that cannot be put into such an
order keeps its own. A module whose bodies use names that nothing has is refused. -/
namespace Clearance.Rego

/-- A statement gives the variable a value when those that it uses have theirs. Without a name it
only uses variables. -/
structure Definition where
  name : Option String
  uses : List String

/-! ## Definitions of a statement -/

/-- One definition for each name, or one without a name. -/
def definitionsOf (names uses : List String) : List Definition :=
  if names.isEmpty then [⟨none, uses⟩] else names.map fun x => ⟨some x, uses⟩

/-- The variables of a body among those that have values elsewhere. -/
structure BodyScope where
  inside : Surroundings
  names : List String
  /-- The variables that no key between brackets can give a value. -/
  given : List String

namespace BodyScope

def own (b : BodyScope) (names : List String) : List String := names.filter b.names.contains

def uses (b : BodyScope) (t : Term) : List String := b.own (t.uses b.inside)

def rangeDefinitions (b : BodyScope) (t : Term) : List Definition :=
  t.ranges.flatMap fun r =>
    (without (b.own r.names) b.given).map fun x => ⟨some x, b.uses r.collection⟩

/-- The parts of a pattern that are no variables are used. -/
def patternUses (b : BodyScope) (pattern : Term) : List String :=
  without (b.uses pattern) pattern.patternNames

def assignDefinitions (b : BodyScope) (pattern value : Term) : List Definition :=
  definitionsOf pattern.patternNames (b.patternUses pattern ++ b.uses value)

/-- Each side can give the variables of the other their values. -/
def unifyDefinitions (b : BodyScope) (x y : Term) : List Definition :=
  let left := b.own x.patternNames
  let right := b.own y.patternNames
  if left.isEmpty && right.isEmpty then [⟨none, b.uses x ++ b.uses y⟩]
  else
    left.map (fun name => ⟨some name, b.patternUses x ++ b.uses y⟩) ++
      right.map fun name => ⟨some name, b.patternUses y ++ b.uses x⟩

mutual
def definitions (b : BodyScope) : Statement → List Definition
  | .term t =>
    b.rangeDefinitions t ++
      match b.inside.resultArgument? t with
      | some (arguments, result) =>
        definitionsOf (b.own result.patternNames)
          (b.own (usesOfAll b.inside arguments) ++ b.patternUses result)
      | none => [⟨none, b.uses t⟩]
  | .assign pattern value => b.rangeDefinitions value ++ b.assignDefinitions pattern value
  | .unify x y => b.rangeDefinitions x ++ b.rangeDefinitions y ++ b.unifyDefinitions x y
  | .parts ss => ⟨none, []⟩ :: definitionsOfAll b ss
  | .negation s =>
    (definitions b s).filter (·.name.isSome) ++ [⟨none, b.own (s.uses b.inside)⟩]
  | .declare _ => [⟨none, []⟩]
  | .someIn key item collection =>
    let patterns := key.toList ++ [item]
    b.rangeDefinitions collection ++
      definitionsOf (patterns.flatMap Term.patternNames)
        (patterns.flatMap b.patternUses ++ b.uses collection)
  | .everyIn key item collection body =>
    b.rangeDefinitions collection ++
      [⟨none, b.own (Statement.uses b.inside (.everyIn key item collection body))⟩]

def definitionsOfAll (b : BodyScope) : List Statement → List Definition
  | [] => []
  | s :: ss => definitions b s ++ definitionsOfAll b ss
end

end BodyScope

/-! ## Order -/

/-- A statement that has no place yet, with its position in the text. -/
structure Waiting where
  position : Nat
  definitions : List Definition

namespace Waiting

def defines (name : Option String) (w : Waiting) : Bool := w.definitions.any (·.name == name)

/-- The variables that have values once all of some definitions are settled, which takes `steps`
rounds at most. -/
def settled : Nat → List String → List Definition → Option (List String)
  | _, known, [] => some known
  | 0, _, _ => none
  | steps + 1, known, definitions =>
    let ready (d : Definition) := d.uses.all known.contains
    let names := (definitions.filter ready).filterMap (·.name)
    if definitions.any ready then
      settled steps (names ++ known) (definitions.filter fun d => ! ready d)
    else none

def after? (w : Waiting) (known : List String) : Option (List String) :=
  settled w.definitions.length known w.definitions

end Waiting

/-- How far a body is put into order: the variables that have values, the positions of the
statements that are placed, and those that wait. -/
structure Progress where
  known : List String
  placed : List Nat
  waiting : List Waiting

namespace Progress

/-- Places one statement if it is among those chosen and can be solved. -/
def offer (choose : Waiting → Bool) (p : Progress) (w : Waiting) : Progress :=
  match if choose w then w.after? p.known else none with
  | some known => { p with known, placed := p.placed ++ [w.position] }
  | none => { p with waiting := p.waiting ++ [w] }

/-- Offers places to all waiting statements, in the order of the text. -/
def pass (choose : Waiting → Bool) (p : Progress) : Progress :=
  p.waiting.foldl (offer choose) { p with waiting := [] }

/-- Offers places to the statements that give a variable a value, or to those that only use
variables. Whenever one is placed, the latter are offered places again. -/
def passFor (p : Progress) (name : Option String) : Progress :=
  let q := p.pass (Waiting.defines name)
  if q.placed.length = p.placed.length then q else q.pass (Waiting.defines none)

def rounds (names : List (Option String)) : Nat → Progress → Progress
  | 0, p => p
  | n + 1, p =>
    let q := names.foldl passFor p
    if q.waiting.isEmpty || q.placed.length == p.placed.length then q else rounds names n q

end Progress

def insertName (x : String) : List String → List String
  | [] => [x]
  | y :: ys => if x < y then x :: y :: ys else if x == y then y :: ys else y :: insertName x ys

/-- The positions of the statements of a body, in the order in which they are solved. -/
def order (definitions : List (List Definition)) : List Nat :=
  let waiting := definitions.mapIdx fun i ds => (⟨i, ds⟩ : Waiting)
  let names := (definitions.flatten.filterMap (·.name)).foldl (fun done x => insertName x done) []
  let reached := Progress.rounds (none :: names.map some) waiting.length ⟨[], [], waiting⟩
  if reached.waiting.isEmpty then reached.placed else List.range definitions.length

/-! ## Checks -/

mutual
/-- The variables that a statement assigns. -/
def Statement.assigned : Statement → List String
  | .assign pattern _ => pattern.patternNames
  | .parts ss => assignedByAll ss
  | _ => []

def assignedByAll : List Statement → List String
  | [] => []
  | s :: ss => s.assigned ++ assignedByAll ss
end

/-- Whether no variable is used before it is assigned; `used` are those used so far. -/
def assignsFirst (s : Surroundings) (used : List String) : List Statement → Bool
  | [] => true
  | t :: ts =>
    let used := used ++ t.uses s
    ! t.assigned.any used.contains && assignsFirst s used ts

mutual
/-- Whether lists that are made equal have equally many items, and objects that are both written out
equally many members. -/
def Statement.fits : Statement → Bool
  | .assign (.array _) (.array _) => false
  | .unify (.array _) (.array _) => false
  | .unify (.object as) (.object bs) => as.length == bs.length
  | .parts ss => allFit ss
  | _ => true

def allFit : List Statement → Bool
  | [] => true
  | s :: ss => s.fits && allFit ss
end

/-- The order of a body with some outputs behind it; none if it uses a name that nothing has, or a
variable before its assignment. -/
def arrangeBody (s : Surroundings) (body : List Statement) (outputs : List Term) :
    Option (List Nat) :=
  let names := bodyNames s body outputs
  let inside := s.seeing names
  let uses := usesOfBody inside body ++ usesOfAll inside outputs
  if uses.all inside.visible.contains && assignsFirst inside [] body && allFit body then
    let scope : BodyScope := ⟨inside, names, body.flatMap Statement.given⟩
    some (order (body.map scope.definitions))
  else none

def atPositions (positions : List Nat) (statements : List α) : List α :=
  positions.filterMap (statements[·]?)

/-! ## Arranging -/

mutual
/-- Arranges the bodies inside a term. -/
def Term.arrange (s : Surroundings) : Term → Option Term
  | .constant v => some (.constant v)
  | .var x => some (.var x)
  | .field t name => do return .field (← t.arrange s) name
  | .index site t key => do return .index site (← t.arrange s) (← key.arrange s)
  | .call f arguments => do return .call f (← arrangeAll s arguments)
  | .array items => do return .array (← arrangeAll s items)
  | .set items => do return .set (← arrangeAll s items)
  | .object members => do return .object (← arrangeMembers s members)
  | .arrayFrom item body => do
    let inside := s.seeing (bodyNames s body [item])
    let statements ← arrangeEach inside body
    return .arrayFrom (← item.arrange inside) (atPositions (← arrangeBody s body [item]) statements)
  | .setFrom item body => do
    let inside := s.seeing (bodyNames s body [item])
    let statements ← arrangeEach inside body
    return .setFrom (← item.arrange inside) (atPositions (← arrangeBody s body [item]) statements)
  | .objectFrom key value body => do
    let inside := s.seeing (bodyNames s body [key, value])
    let statements ← arrangeEach inside body
    let positions ← arrangeBody s body [key, value]
    return .objectFrom (← key.arrange inside) (← value.arrange inside)
      (atPositions positions statements)
  | .negative t => do return .negative (← t.arrange s)
  | .operation op a b => do return .operation op (← a.arrange s) (← b.arrange s)
  | .comparison op a b => do return .comparison op (← a.arrange s) (← b.arrange s)
  | .member (some key) item collection => do
    return .member (some (← key.arrange s)) (← item.arrange s) (← collection.arrange s)
  | .member none item collection => do
    return .member none (← item.arrange s) (← collection.arrange s)

def arrangeAll (s : Surroundings) : List Term → Option (List Term)
  | [] => some []
  | t :: ts => do return (← t.arrange s) :: (← arrangeAll s ts)

def arrangeMembers (s : Surroundings) : List (Term × Term) → Option (List (Term × Term))
  | [] => some []
  | (key, t) :: ts => do
    return (← key.arrange s, ← t.arrange s) :: (← arrangeMembers s ts)

def Statement.arrange (s : Surroundings) : Statement → Option Statement
  | .term t => do return .term (← t.arrange s)
  | .assign pattern value => do return .assign (← pattern.arrange s) (← value.arrange s)
  | .unify a b => do return .unify (← a.arrange s) (← b.arrange s)
  | .parts ss => do return .parts (← arrangeEach s ss)
  | .negation inner => do return .negation (← inner.arrange s)
  | .declare names => some (.declare names)
  | .someIn (some key) item collection => do
    return .someIn (some (← key.arrange s)) (← item.arrange s) (← collection.arrange s)
  | .someIn none item collection => do
    return .someIn none (← item.arrange s) (← collection.arrange s)
  | .everyIn key item collection body => do
    let outside := s.seeing (item :: key.toList)
    let statements ← arrangeEach (outside.seeing (bodyNames outside body [])) body
    let positions ← arrangeBody outside body []
    return .everyIn key item (← collection.arrange s) (atPositions positions statements)

def arrangeEach (s : Surroundings) : List Statement → Option (List Statement)
  | [] => some []
  | t :: ts => do return (← t.arrange s) :: (← arrangeEach s ts)
end

/-- A body with the outputs behind it. -/
def arrangeWith (s : Surroundings) (body : List Statement) (outputs : List Term) :
    Option (List Statement × List Term) := do
  let inside := s.seeing (bodyNames s body outputs)
  let statements ← arrangeEach inside body
  return (atPositions (← arrangeBody s body outputs) statements, ← arrangeAll inside outputs)

/-! ## Modules -/

namespace Rule

/-- The outputs in the head of a rule. -/
def heads (r : Rule) : List Term :=
  match r.target with
  | .item t => [t]
  | .member keys => keys
  | .whole | .function _ => []

def withHeads (r : Rule) (heads : List Term) : Target :=
  match r.target with
  | .item t => .item (heads.headD t)
  | .member _ => .member heads
  | target => target

def parameters (r : Rule) : List Term :=
  match r.target with
  | .function parameters => parameters
  | _ => []

/-- The names in the outputs of a rule without a body are looked for only when it is evaluated. -/
def arrange (s : Surroundings) (r : Rule) : Option Rule := do
  let s := s.seeing (r.parameters.flatMap Term.patternNames)
  let count := r.heads.length
  let outputs := r.heads ++ r.first.value.toList
  let (body, outputs) ←
    if r.first.body.isEmpty then pure ([], ← arrangeAll s outputs)
    else arrangeWith s r.first.body outputs
  let others ← r.others.mapM fun b => do
    let (body, outputs) ← arrangeWith s b.body b.value.toList
    return (⟨body, outputs.head?⟩ : Branch)
  return { r with
    target := r.withHeads (outputs.take count), first := ⟨body, outputs[count]?⟩, others }

end Rule

namespace Module

/-- The numbers of arguments of the functions of a module, by their names in it. -/
def arities (m : Module) : List (String × Nat) :=
  (m.rules.filter (·.isFunction)).map fun r => (".".intercalate r.path, r.parameters.length)

/-- Functions of one name have equally many arguments. -/
def hasClearArities (m : Module) : Bool :=
  m.arities.all fun (f, count) => m.arities.lookup f == some count

/-- The names that every body of a module sees. -/
def visible (m : Module) : List String :=
  ["input", "data"] ++ (m.imports.filter (·.renamed)).map (·.name) ++
    m.rules.filterMap (·.path.head?) ++ m.defaults.filterMap (·.path.head?)

/-- The module with every body arranged; `arity` tells the numbers of arguments of all functions. -/
def arrange (arity : String → Option Nat) (m : Module) : Option Module := do
  if ! m.hasClearArities then none
  let s : Surroundings := ⟨m.visible, arity⟩
  let defaults ← m.defaults.mapM fun d => do return { d with value := ← d.value.arrange s }
  return { m with defaults, rules := ← m.rules.mapM (Rule.arrange s) }

end Module

end Clearance.Rego
