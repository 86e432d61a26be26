import Clearance.Rego.Matching
import Clearance.Rego.Names
import Clearance.Rego.Operation
import Clearance.Rego.World

/-! Evaluation. A term has one value or none. A body is solved by giving values to variables,
statement by statement: where a statement allows several values, the rest of the body is solved with
each of them in turn. -/
namespace Clearance.Rego

/-- The values of some outputs, each of which may be missing. -/
abbrev Row := List (Option Value)

/-- The rows that are found for each of some items. Where one is enough, the first item that has any
is the last. -/
def gather (once : Bool) (f : α → Evaluation (List Row)) : List α → Evaluation (List Row)
  | [] => return []
  | x :: xs => do
    let found ← f x
    if once && ! found.isEmpty then return found
    return found ++ (← gather once f xs)

/-- Whether something holds for all items; the first one for which it does not is the last. -/
def holdsForAll (f : α → Evaluation Bool) : List α → Evaluation Bool
  | [] => return true
  | x :: xs => do if ← f x then holdsForAll f xs else return false

/-- Tries a pattern on the entries of a collection in turn. Each entry that fits goes on to `next`.
-/
def gatherMatches (once : Bool) (f : Matching → Attempt → Value × Value → Evaluation Attempt)
    (next : Locals → Evaluation (List Row)) (l : Locals) (seen : List (List Nat)) :
    List (Value × Value) → Evaluation (List Row)
  | [] => return []
  | entry :: rest => do
    let a ← f ⟨false, rest.isEmpty⟩ (.start l seen) entry
    let found ← if a.fits then next a.locals else pure []
    if once && ! found.isEmpty then return found
    return found ++ (← gatherMatches once f next l a.seen rest)

/-- What counts as holding: every value but `false`. -/
def passes (v : Option Value) : Bool := v.any Value.holds

def truth (b : Bool) : Option Value := some (.boolean b)

def both : Option α → Option β → Option (α × β)
  | some a, some b => some (a, b)
  | _, _ => none

def liftExcept (x : Except Fault α) : Evaluation α := fun s => x.map (·, s)

/-- Adds a member to an object. A key keeps one value. -/
def addMember (members : List (Value × Value)) (key v : Value) :
    Except Fault (List (Value × Value)) :=
  match members.find? (·.1 == key) with
  | some (_, old) => if old == v then return members else throw .conflictingKeys
  | none => return Value.insertMember key v members

/-- The object with the keys and values of some rows. Rows that lack one do not count. -/
def objectOfRows (rows : List Row) : Except Fault Value := do
  let members ← rows.foldlM (fun members row =>
    match row with
    | [some key, some v] => addMember members key v
    | _ => return members) []
  return .object members

def itemsOfRows (rows : List Row) : List Value := rows.flatMap fun row => row.filterMap id

namespace World

/-- Whether a name between brackets ranges over keys: a blank, a variable that is only declared, or
a name that neither a variable nor a rule has. -/
def isLoose (w : World) (l : Locals) (x : String) : Bool :=
  x == blank ||
    match l.find? x with
    | some v => v.isNone
    | none => ! w.isRule x

def ranges (w : World) (l : Locals) (key : Term) : Bool := key.patternVariables.any (w.isLoose l)

/-- The value that a name has so far, where it need not have one. -/
def peek (w : World) (l : Locals) (x : String) : Evaluation (Option Value) :=
  match l.find? x with
  | some v => return v
  | none => (w.look? x []).getD (return none)

end World

/-- Whether the value of a term is the one that is chosen at its place. -/
def Locals.isChosen (l : Locals) : Term → Bool
  | .index site _ _ => (l.chosen.lookup site).isSome
  | _ => false

def Term.isPattern : Term → Bool
  | .array _ | .object _ => true
  | _ => false

def sameKind (u : Option Value) (v : Value) : Bool := u.any fun u => u.kindRank == v.kindRank

variable (w : World)

mutual
/-- What a chain of fixed names selects in the value of a term. -/
def Term.select (l : Locals) (names : List String) : Term → Evaluation (Option Value)
  | .constant v => return Value.follow (some v) names
  | .var x =>
    match l.find? x with
    | some v => return Value.follow v names
    | none => (w.look? x names).getD (throw .unknownVariable)
  | .field t name => t.select l (name :: names)
  | .index site t key =>
    match l.chosen.lookup site with
    | some v => return Value.follow (some v) names
    | none => do
      let v ← t.select l []
      let k ← key.select l []
      return Value.follow ((both v k).bind fun (v, k) => v.index? k) names
  | .call f arguments =>
    match w.function? f with
    | none => throw (.unknownFunction f)
    | some c => do
      match ← argumentsOf l c.evaluatesAll arguments.length arguments with
      | none => return none
      | some vs =>
        if vs.length = c.arity then return Value.follow (← c.apply vs) names
        else throw (.wrongArguments f)
  | .array items => do
    return Value.follow ((← argumentsOf l false items.length items).map .array) names
  | .set items => do
    return Value.follow ((← argumentsOf l false items.length items).map Value.setOf) names
  | .object members => do
    return Value.follow ((← membersOf l members).map Value.objectOf) names
  | .arrayFrom item body => do
    let rows ← solve false l.opened (fun l => item.range false false l l fun l => do
      return [[← item.select l []]]) body
    return Value.follow (some (.array (itemsOfRows rows))) names
  | .setFrom item body => do
    let rows ← solve false l.opened (fun l => item.range false false l l fun l => do
      return [[← item.select l []]]) body
    return Value.follow (some (Value.setOf (itemsOfRows rows))) names
  | .objectFrom key item body => do
    let rows ← solve false l.opened (fun outside =>
      key.range false false outside outside fun l => item.range false false outside l fun l => do
        return [[← key.select l [], ← item.select l []]]) body
    return Value.follow (some (← liftExcept (objectOfRows rows))) names
  | .negative (.constant (.number n)) => do
    if n.mantissa < 0 then throw .wrongOperands
    return Value.follow (some (.number n.neg)) names
  | .negative _ => throw .wrongOperands
  | .operation op a b => do
    match both (← a.select l []) (← b.select l []) with
    | none => return none
    | some (x, y) => return Value.follow (some (← liftExcept (op.apply x y))) names
  | .comparison op a b => do
    let operands := both (← a.select l []) (← b.select l [])
    return Value.follow (operands.bind fun (x, y) => truth (op.test x y)) names
  | .member none item collection => do
    let x ← item.select l []
    return Value.follow (truth (isMember x (← collection.select l []))) names
  | .member (some key) item collection => do
    let x ← item.select l []
    match keyed? (← collection.select l []) with
    | none => return Value.follow (truth false) names
    | some c => return Value.follow (truth (isMemberAt (← key.select l []) x c)) names

/-- The values of the first `count` terms; none if one of them has no value. Those behind it may
still be evaluated. -/
def argumentsOf (l : Locals) (all : Bool) (count : Nat) :
    List Term → Evaluation (Option (List Value))
  | [] => return some []
  | t :: ts => do
    if count = 0 then return some []
    match ← t.select l [] with
    | some v => return (← argumentsOf l all (count - 1) ts).map (v :: ·)
    | none =>
      if all then let _ ← argumentsOf l all (count - 1) ts
      return none

def membersOf (l : Locals) : List (Term × Term) → Evaluation (Option (List (Value × Value)))
  | [] => return some []
  | (key, t) :: ts => do
    match both (← key.select l []) (← t.select l []) with
    | none => return none
    | some m => return (← membersOf l ts).map (m :: ·)

/-- Chooses values at the places between brackets that range over keys, as seen from `outside`, and
goes on with each choice. `named` tells whether the variables there get the keys as their values; a
variable that has got one already admits no other key. -/
def Term.range (once named : Bool) (outside l : Locals) (next : Locals → Evaluation (List Row)) :
    Term → Evaluation (List Row)
  | .index site t key =>
    t.range once named outside l fun l => key.range once named outside l fun l => do
      if ! w.ranges outside key then next l
      else if named then
        let collection ← t.select l []
        match key.patternVariables.head?.bind l.valueOf?, key with
        | some k, .var _ => if (collection.bind (·.index? k)).isSome then next l else return []
        | _, _ =>
          match collection with
          | none => return []
          | some c =>
            if ! c.isCollection then throw .notCollection
            gather once (fun (k, v) => do
              let a ← key.tryOn .comparing [] (key.select · []) k (.start l.opened [])
              if a.fits then next (a.locals.choose site v) else return []) c.entries
      else
        match ← t.select l [] with
        | none => throw .notCollection
        | some c =>
          if ! c.isCollection then throw .notCollection
          gather once (fun (_, v) => next (l.choose site v)) c.entries
  | .field t _ => t.range once named outside l next
  | .call _ arguments => rangeAll once named outside l next arguments
  | .array items => rangeAll once named outside l next items
  | .set items => rangeAll once named outside l next items
  | .object members => rangeMembers once named outside l next members
  | .negative t => t.range once named outside l next
  | .operation _ a b =>
    a.range once named outside l fun l => b.range once named outside l next
  | .comparison _ a b =>
    a.range once named outside l fun l => b.range once named outside l next
  | .member none item collection =>
    item.range once named outside l fun l => collection.range once named outside l next
  | .member (some key) item collection =>
    key.range once named outside l fun l => item.range once named outside l fun l =>
      collection.range once named outside l next
  | .constant _ => next l
  | .var _ => next l
  | .arrayFrom .. => next l
  | .setFrom .. => next l
  | .objectFrom .. => next l

def rangeAll (once named : Bool) (outside l : Locals) (next : Locals → Evaluation (List Row)) :
    List Term → Evaluation (List Row)
  | [] => next l
  | t :: ts =>
    t.range once named outside l fun l => rangeAll once named outside l next ts

def rangeMembers (once named : Bool) (outside l : Locals)
    (next : Locals → Evaluation (List Row)) : List (Term × Term) → Evaluation (List Row)
  | [] => next l
  | (key, t) :: ts =>
    key.range once named outside l fun l => t.range once named outside l fun l =>
      rangeMembers once named outside l next ts

/-- Matches a value against a pattern, which is at `part` of a larger one. What is no pattern fits
its own value. -/
def Term.tryOn (m : Matching) (part : List Nat) (own : Locals → Evaluation (Option Value))
    (v : Value) (a : Attempt) : Term → Evaluation Attempt
  | .var x => return a.bind m x v
  | .array items =>
    match v with
    | .array vs =>
      if items.length = vs.length then tryItems m part 0 vs (a.recognise part) items
      else rejected m part a
    | _ => rejected m part a
  | .object members =>
    match v with
    | .object _ => tryMembers m part 0 v (a.recognise part) members
    | _ => rejected m part a
  | _ => do
    let u ← own a.locals
    if sameKind u v then return (a.recognise part).settle (u == some v)
    else rejected m part a
where
  rejected (m : Matching) (part : List Nat) (a : Attempt) : Evaluation Attempt :=
    match a.reject m part with
    | some a => return a
    | none => throw .wrongPattern

def tryItems (m : Matching) (part : List Nat) (i : Nat) (vs : List Value) (a : Attempt) :
    List Term → Evaluation Attempt
  | [] => return a
  | t :: ts =>
    match vs with
    | [] => return a
    | v :: vs => do
      let a ← t.tryOn m (i :: part) (t.select · []) v a
      if a.fits then tryItems m part (i + 1) vs a ts else return a

def tryMembers (m : Matching) (part : List Nat) (i : Nat) (v : Value) (a : Attempt) :
    List (Term × Term) → Evaluation Attempt
  | [] => return a
  | (key, t) :: ts => do
    match (← key.select a.locals []).bind v.index? with
    | none =>
      match a.reject m (i :: part) with
      | some a => return a
      | none => throw .wrongPattern
    | some x =>
      let a ← t.tryOn m (i :: part) (t.select · []) x a
      if a.fits then tryMembers m part (i + 1) v a ts else return a

/-- Chooses values between the brackets of a statement. -/
def Statement.range (once : Bool) (outside l : Locals) (next : Locals → Evaluation (List Row)) :
    Statement → Evaluation (List Row)
  | .term t => t.range once true outside l next
  | .assign pattern value =>
    pattern.range once true outside l fun l => value.range once true outside l next
  | .unify a b => a.range once true outside l fun l => b.range once true outside l next
  | .parts ss => rangeParts once outside l next ss
  | .negation s => s.range once outside l next
  | .declare _ => next l
  | .someIn _ _ collection => collection.range once true outside l next
  | .everyIn _ _ collection _ => collection.range once true outside l next

def rangeParts (once : Bool) (outside l : Locals) (next : Locals → Evaluation (List Row)) :
    List Statement → Evaluation (List Row)
  | [] => next l
  | s :: ss => s.range once outside l fun l => rangeParts once outside l next ss

/-- The value of a term that is a statement. A call may have one argument more than its function: it
is for the result. -/
def Term.answer (own : Evaluation (Option Value)) (l : Locals) :
    Term → Evaluation (Option Value × Locals)
  | .call f arguments =>
    match w.function? f with
    | some c => do
      if arguments.length ≠ c.arity + 1 then return (← own, l)
      match ← argumentsOf l c.evaluatesAll c.arity arguments with
      | none => return (none, l)
      | some vs =>
        match ← c.apply vs, arguments.getLast? with
        | some v, some (.var x) =>
          match l.valueOf? x with
          | some u => return (truth (u == v), l)
          | none =>
            if x == blank || (l.find? x).isSome || (w.look? x []).isNone then
              return (truth true, l.bind x v)
            else return (truth ((← w.peek l x) == some v), l)
        | some v, _ => return (truth ((← lastOf l arguments) == some v), l)
        | none, _ => return (none, l)
    | none => return (← own, l)
  | _ => return (← own, l)

def lastOf (l : Locals) : List Term → Evaluation (Option Value)
  | [] => return none
  | t :: ts => do if ts.isEmpty then t.select l [] else lastOf l ts

/-- The value of a statement without alternatives, and the variables behind it. -/
def Statement.result (l : Locals) : Statement → Evaluation (Option Value × Locals)
  | .term t => t.answer (t.select l []) l
  | .assign (.var x) value => do
    if (l.valueOf? x).isSome && ! l.isChosen value then throw (.redefinition x)
    match ← value.select l [] with
    | none => return (none, l)
    | some v => return (truth true, l.bind x v)
  | .assign pattern value => do
    match ← value.select l [] with
    | none => return (none, l)
    | some v => matched l (← pattern.tryOn .once [] (pattern.select · []) v (.start l []))
  | .unify (.var x) (.var y) => do
    match ← w.peek l x, ← w.peek l y with
    | none, none => throw .unknownVariable
    | some u, none => return (truth true, l.bind y u)
    | none, some v => return (truth true, l.bind x v)
    | some u, some v => return (truth (u == v), l)
  | .unify (.var x) b => do equal l x (← w.peek l x) (← b.select l [])
  | .unify a (.var y) => do equal l y (← w.peek l y) (← a.select l [])
  | .unify a b => do
    if a.isPattern then
      match ← b.select l [] with
      | none => return (none, l)
      | some v => matched l (← a.tryOn .comparing [] (a.select · []) v (.start l []))
    else if b.isPattern then
      match ← a.select l [] with
      | none => return (none, l)
      | some v => matched l (← b.tryOn .comparing [] (b.select · []) v (.start l []))
    else
      let operands := both (← a.select l []) (← b.select l [])
      return (operands.bind fun (u, v) => truth (u == v), l)
  | .parts ss => resultOfParts l ss
  | .negation s => do
    let (v, _) ← s.result l
    return (truth (! passes v), l)
  | .declare names => do
    return (truth true, ← declareAll l names)
  | .someIn .. => return (none, l)
  | .everyIn key item collection body => do
    match ← collection.select l [] with
    | none => return (truth false, l)
    | some c =>
      if ! c.isCollection then return (truth false, l)
      let all ← holdsForAll (fun (k, v) => do
        let inside := (key.elim l.opened fun x => l.opened.bind x k).bind item v
        return ! (← solve true inside.opened (fun _ => return [[]]) body).isEmpty) c.entries
      return (truth all, l)
where
  matched (l : Locals) (a : Attempt) : Evaluation (Option Value × Locals) :=
    return if a.fits then (truth true, a.locals) else (truth false, l)
  equal (l : Locals) (x : String) (u v : Option Value) : Evaluation (Option Value × Locals) :=
    return match u, v with
      | _, none => (none, l)
      | none, some v => (truth true, l.bind x v)
      | some u, some v => (truth (u == v), l)
  declareAll (l : Locals) : List String → Evaluation Locals
    | [] => return l
    | x :: xs =>
      if x != blank && l.isDeclared x then throw (.redefinition x) else declareAll (l.put x none) xs

def resultOfParts (l : Locals) : List Statement → Evaluation (Option Value × Locals)
  | [] => return (truth true, l)
  | s :: ss => do
    let (v, l) ← s.result l
    if passes v then resultOfParts l ss else return (v, l)

/-- Solves a body and goes on with each solution. -/
def solve (once : Bool) (l : Locals) (next : Locals → Evaluation (List Row)) :
    List Statement → Evaluation (List Row)
  | [] => next l
  | .someIn key item collection :: ss =>
    collection.range once true l l fun l => do
      match ← collection.select l [] with
      | none => return []
      | some c =>
        if ! c.isCollection then throw .notCollection
        gatherMatches once
          (fun m a (k, v) => do
            let a ← match key with
              | some key => key.tryOn m [0] (key.select · []) k a
              | none => pure a
            if a.fits then item.tryOn m [1] (item.select · []) v a else return a)
          (fun l => solve once l next ss) l [] c.entries
  | s :: ss =>
    s.range once l l fun l => do
      let (v, l) ← s.result l
      if passes v then solve once l next ss else return []
end

end Clearance.Rego
