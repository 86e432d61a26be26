import Clearance.Rego.Value

/-! The syntax of policy modules. -/
namespace Clearance.Rego

inductive Operator where
  | add
  | subtract
  | multiply
  | divide
  | remainder
  | union
  | intersection
  deriving DecidableEq, Repr

inductive Comparison where
  | equal
  | different
  | less
  | lessOrEqual
  | greater
  | greaterOrEqual
  deriving DecidableEq, Repr

mutual
inductive Term where
  | constant (v : Value)
  | var (name : String)
  /-- What a fixed name selects: a word behind a dot, or a quoted string as it is written. -/
  | field (t : Term) (name : String)
  /-- What a key between brackets selects. The site tells this place of the text from all others. -/
  | index (site : Nat) (t key : Term)
  | call (function : String) (arguments : List Term)
  | array (items : List Term)
  | set (items : List Term)
  | object (members : List (Term × Term))
  | arrayFrom (item : Term) (body : List Statement)
  | setFrom (item : Term) (body : List Statement)
  | objectFrom (key value : Term) (body : List Statement)
  | negative (t : Term)
  | operation (op : Operator) (a b : Term)
  | comparison (op : Comparison) (a b : Term)
  | member (key : Option Term) (item collection : Term)

inductive Statement where
  | term (t : Term)
  | assign (pattern value : Term)
  | unify (a b : Term)
  /-- Assignments or equations that are made together, part by part. -/
  | parts (ss : List Statement)
  | negation (s : Statement)
  | declare (names : List String)
  | someIn (key : Option Term) (item collection : Term)
  | everyIn (key : Option String) (item : String) (collection : Term) (body : List Statement)
end

instance : Inhabited Term := ⟨.constant .null⟩
instance : Inhabited Statement := ⟨.term default⟩

namespace Statement

mutual
/-- What makes two terms equal. Lists that are written out on both sides, with equally many items,
are taken item by item. -/
def paired (make : Term → Term → Statement) : Term → Term → Statement
  | .array as, .array bs =>
    if as.length = bs.length then .parts (pairedAll make as bs) else make (.array as) (.array bs)
  | a, b => make a b

def pairedAll (make : Term → Term → Statement) : List Term → List Term → List Statement
  | a :: as, b :: bs => paired make a b :: pairedAll make as bs
  | _, _ => []
end

end Statement

/-- The name that stands for no variable. -/
def blank : String := "_"

namespace Term

def truth : Term := .constant (.boolean true)

/-- Whether a term is a single value that is written out. -/
def isScalar : Term → Bool
  | .constant _ => true
  | _ => false

/-- The dotted name that a term is, from its end. -/
def dotted? : Term → Option (List String)
  | .var x => some [x]
  | .field t name => (dotted? t).map (name :: ·)
  | _ => none

end Term

/-! ## Rules -/

/-- One alternative of a rule: where the body has a solution, the rule has the value. Without a
value it is true there. -/
structure Branch where
  body : List Statement
  value : Option Term

/-- What the first branch of a rule contributes at the rule's place. -/
inductive Target where
  | whole
  | item (t : Term)
  /-- A member below keys that are evaluated. -/
  | member (keys : List Term)
  | function (parameters : List Term)

/-- A rule is found by its path below the package, and its value is kept at its place. The branches
are tried in order; the first whose body has a solution decides. -/
structure Rule where
  path : List String
  place : List String
  target : Target
  first : Branch
  others : List Branch

/-- The value of a place that has no other. -/
structure Default where
  path : List String
  value : Term

/-- Another name for a path, which starts at `input` or `data`. -/
structure Import where
  name : String
  path : List String
  /-- Whether the name is given by the module, and not only the end of the path. -/
  renamed : Bool

structure Module where
  package : List String
  imports : List Import
  defaults : List Default
  rules : List Rule

namespace Rule

def isFunction (r : Rule) : Bool :=
  match r.target with
  | .function _ => true
  | _ => false

def branches (r : Rule) : List Branch := r.first :: r.others

end Rule

end Clearance.Rego
