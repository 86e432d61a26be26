import Clearance.Rego.Syntax

/-! The variables of terms and bodies. A body has variables of its own: those that its statements
make new, whatever has their names outside, and those that nothing outside has a name for. All other
names in it belong to what is around. -/
namespace Clearance.Rego

/-- What is around a body: the names that are visible, and the functions with their numbers of
arguments. -/
structure Surroundings where
  visible : List String
  arity : String → Option Nat

namespace Surroundings

def seeing (s : Surroundings) (names : List String) : Surroundings :=
  { s with visible := names ++ s.visible }

end Surroundings

def without (names others : List String) : List String := names.filter fun x => ! others.contains x

def named (x : String) : List String := if x == blank then [] else [x]

namespace Term

mutual
/-- The variables and blanks of a term that stand for values when it is matched against one. -/
def patternVariables : Term → List String
  | .var x => [x]
  | .array items => patternVariablesOfAll items
  | .object members => patternVariablesOfMembers members
  | _ => []

def patternVariablesOfAll : List Term → List String
  | [] => []
  | t :: ts => patternVariables t ++ patternVariablesOfAll ts

def patternVariablesOfMembers : List (Term × Term) → List String
  | [] => []
  | (_, t) :: ts => patternVariables t ++ patternVariablesOfMembers ts
end

/-- The variables that a match gives values to. -/
def patternNames (t : Term) : List String := t.patternVariables.filter (· != blank)

/-- A place between brackets where variables may range over the keys of a collection. -/
structure Range where
  names : List String
  collection : Term

mutual
def ranges : Term → List Range
  | .field t _ => ranges t
  | .index _ t key => ranges t ++ ranges key ++ [⟨key.patternNames, t⟩]
  | .call _ arguments => rangesOfAll arguments
  | .array items | .set items => rangesOfAll items
  | .object members => rangesOfMembers members
  | .negative t => ranges t
  | .operation _ a b | .comparison _ a b => ranges a ++ ranges b
  | .member (some key) item collection => ranges key ++ ranges item ++ ranges collection
  | .member none item collection => ranges item ++ ranges collection
  | .constant _ | .var _ | .arrayFrom .. | .setFrom .. | .objectFrom .. => []

def rangesOfAll : List Term → List Range
  | [] => []
  | t :: ts => ranges t ++ rangesOfAll ts

def rangesOfMembers : List (Term × Term) → List Range
  | [] => []
  | (key, t) :: ts => ranges key ++ ranges t ++ rangesOfMembers ts
end

def rangingNames (t : Term) : List String := t.ranges.flatMap Range.names

end Term

/-- A call with one argument more than the function has: the last one is for the result. -/
def Surroundings.resultArgument? (s : Surroundings) : Term → Option (List Term × Term)
  | .call f arguments => do
    let count ← s.arity f
    if arguments.length = count + 1 then
      return (arguments.dropLast, ← arguments.getLast?)
    else none
  | _ => none

namespace Statement

mutual
/-- The variables that a statement makes new, whatever has their names outside. -/
def introduced : Statement → List String
  | .declare names => names.flatMap named
  | .assign pattern _ => pattern.patternNames
  | .parts ss => introducedByAll ss
  | .someIn (some key) item _ => key.patternNames ++ item.patternNames
  | .someIn none item _ => item.patternNames
  | .term _ | .unify .. | .negation _ | .everyIn .. => []

def introducedByAll : List Statement → List String
  | [] => []
  | s :: ss => introduced s ++ introducedByAll ss
end

/-- The variables that only one statement can give values to. -/
def given : Statement → List String
  | .declare _ => []
  | s => s.introduced

mutual
/-- The variables that a statement can give values to where nothing outside has their names. -/
def candidates (s : Surroundings) : Statement → List String
  | .term t =>
    t.rangingNames ++ ((s.resultArgument? t).map fun (_, x) => x.patternNames).getD []
  | .assign pattern value => pattern.rangingNames ++ value.rangingNames
  | .unify a b => a.patternNames ++ b.patternNames ++ a.rangingNames ++ b.rangingNames
  | .parts ss => candidatesOfAll s ss
  | .negation inner => candidates s inner
  | .declare _ => []
  | .someIn _ _ collection | .everyIn _ _ collection _ => collection.rangingNames

def candidatesOfAll (s : Surroundings) : List Statement → List String
  | [] => []
  | t :: ts => candidates s t ++ candidatesOfAll s ts
end

end Statement

/-- The variables of a body, and of the outputs behind it. -/
def bodyNames (s : Surroundings) (body : List Statement) (outputs : List Term) : List String :=
  body.flatMap Statement.introduced ++
    without (body.flatMap (Statement.candidates s) ++ outputs.flatMap Term.rangingNames) s.visible

/-! ## Uses -/

mutual
/-- The variables in a term that are not those of a body inside it. -/
def Term.uses (s : Surroundings) : Term → List String
  | .constant _ => []
  | .var x => named x
  | .field t _ => t.uses s
  | .index _ t key => t.uses s ++ key.uses s
  | .call _ arguments => usesOfAll s arguments
  | .array items | .set items => usesOfAll s items
  | .object members => usesOfMembers s members
  | .arrayFrom item body | .setFrom item body =>
    let names := bodyNames s body [item]
    without (usesOfBody (s.seeing names) body ++ item.uses (s.seeing names)) names
  | .objectFrom key value body =>
    let names := bodyNames s body [key, value]
    let inside := s.seeing names
    without (usesOfBody inside body ++ key.uses inside ++ value.uses inside) names
  | .negative t => t.uses s
  | .operation _ a b | .comparison _ a b => a.uses s ++ b.uses s
  | .member (some key) item collection => key.uses s ++ item.uses s ++ collection.uses s
  | .member none item collection => item.uses s ++ collection.uses s

def usesOfAll (s : Surroundings) : List Term → List String
  | [] => []
  | t :: ts => t.uses s ++ usesOfAll s ts

def usesOfMembers (s : Surroundings) : List (Term × Term) → List String
  | [] => []
  | (key, t) :: ts => key.uses s ++ t.uses s ++ usesOfMembers s ts

def Statement.uses (s : Surroundings) : Statement → List String
  | .term t => t.uses s
  | .assign pattern value => without (pattern.uses s) pattern.patternNames ++ value.uses s
  | .unify a b => a.uses s ++ b.uses s
  | .parts ss => usesOfBody s ss
  | .negation inner => inner.uses s
  | .declare _ => []
  | .someIn (some key) item collection =>
    without (key.uses s) key.patternNames ++ without (item.uses s) item.patternNames ++
      collection.uses s
  | .someIn none item collection =>
    without (item.uses s) item.patternNames ++ collection.uses s
  | .everyIn key item collection body =>
    let outside := item :: key.toList
    let names := bodyNames (s.seeing outside) body []
    let inside := (s.seeing outside).seeing names
    collection.uses s ++ without (usesOfBody inside body) (names ++ outside)

def usesOfBody (s : Surroundings) : List Statement → List String
  | [] => []
  | t :: ts => t.uses s ++ usesOfBody s ts
end

end Clearance.Rego
