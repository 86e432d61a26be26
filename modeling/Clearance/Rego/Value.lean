import Clearance.Json.Value
import Clearance.Rego.Number

/-! The values of the policy language, in one total order. A set is a strictly increasing list; the
members of an object are in the order of their keys. -/
namespace Clearance.Rego

inductive Value where
  | null
  | boolean (b : Bool)
  | number (n : Number)
  | string (s : String)
  | array (items : List Value)
  | set (items : List Value)
  | object (members : List (Value × Value))

namespace Value

instance : Inhabited Value := ⟨null⟩

/-! ## Equality -/

mutual
def same : Value → Value → Bool
  | null, null => true
  | boolean a, boolean b => a == b
  | number a, number b => a == b
  | string a, string b => a == b
  | array a, array b => sameItems a b
  | set a, set b => sameItems a b
  | object a, object b => sameMembers a b
  | _, _ => false

def sameItems : List Value → List Value → Bool
  | [], [] => true
  | a :: as, b :: bs => same a b && sameItems as bs
  | _, _ => false

def sameMembers : List (Value × Value) → List (Value × Value) → Bool
  | [], [] => true
  | (k, a) :: as, (l, b) :: bs => same k l && same a b && sameMembers as bs
  | _, _ => false
end

instance : BEq Value := ⟨same⟩

mutual
theorem same_iff (a b : Value) : same a b = true ↔ a = b := by
  cases a <;> cases b <;> simp [same]
  · exact sameItems_iff _ _
  · exact sameItems_iff _ _
  · exact sameMembers_iff _ _

theorem sameItems_iff (as bs : List Value) : sameItems as bs = true ↔ as = bs := by
  match as, bs with
  | [], [] => simp [sameItems]
  | [], _ :: _ => simp [sameItems]
  | _ :: _, [] => simp [sameItems]
  | a :: as, b :: bs => simp [sameItems, same_iff a b, sameItems_iff as bs]

theorem sameMembers_iff (as bs : List (Value × Value)) :
    sameMembers as bs = true ↔ as = bs := by
  match as, bs with
  | [], [] => simp [sameMembers]
  | [], _ :: _ => simp [sameMembers]
  | _ :: _, [] => simp [sameMembers]
  | (k, a) :: as, (l, b) :: bs =>
    simp [sameMembers, same_iff k l, same_iff a b, sameMembers_iff as bs, and_assoc]
end

instance : LawfulBEq Value where
  eq_of_beq h := (same_iff _ _).1 h
  rfl := (same_iff _ _).2 rfl

/-! ## Order -/

/-- Values of different kinds are ordered by their kinds. -/
def kindRank : Value → Nat
  | null => 0
  | boolean _ => 1
  | number _ => 2
  | string _ => 3
  | array _ => 4
  | set _ => 5
  | object _ => 6

mutual
def order : Value → Value → Ordering
  | boolean a, boolean b => compare a b
  | number a, number b => a.order b
  | string a, string b => compare a b
  | array a, array b => orderItems a b
  | set a, set b => orderItems a b
  | object a, object b => orderMembers a b
  | a, b => compare a.kindRank b.kindRank

/-- Item by item; a beginning comes before the longer list. -/
def orderItems : List Value → List Value → Ordering
  | [], [] => .eq
  | [], _ :: _ => .lt
  | _ :: _, [] => .gt
  | a :: as, b :: bs => (order a b).then (orderItems as bs)

def orderMembers : List (Value × Value) → List (Value × Value) → Ordering
  | [], [] => .eq
  | [], _ :: _ => .lt
  | _ :: _, [] => .gt
  | (k, a) :: as, (l, b) :: bs => ((order k l).then (order a b)).then (orderMembers as bs)
end

/-! ## Collections -/

/-- Puts a value into an increasing list, once. -/
def insertItem (x : Value) : List Value → List Value
  | [] => [x]
  | y :: ys =>
    match order x y with
    | .lt => x :: y :: ys
    | .eq => y :: ys
    | .gt => y :: insertItem x ys

def setOf (items : List Value) : Value := .set (items.foldl (fun s x => insertItem x s) [])

/-- Puts a member into an object; the key's former value is replaced. -/
def insertMember (key x : Value) : List (Value × Value) → List (Value × Value)
  | [] => [(key, x)]
  | (l, y) :: rest =>
    match order key l with
    | .lt => (key, x) :: (l, y) :: rest
    | .eq => (key, x) :: rest
    | .gt => (l, y) :: insertMember key x rest

/-- The last value for a key counts. -/
def objectOf (members : List (Value × Value)) : Value :=
  .object (members.foldl (fun o (key, x) => insertMember key x o) [])

/-- What a key selects. A set gives back its own item. -/
def index? : Value → Value → Option Value
  | array items, number n => n.toIndex?.bind (items[·]?)
  | set items, key => if items.contains key then some key else none
  | object members, key => (members.find? (·.1 == key)).map (·.2)
  | _, _ => none

def ofNat (n : Nat) : Value := number (.ofInt n)

/-- Keys and values of a collection; other values have none. -/
def entries : Value → List (Value × Value)
  | array items => items.zipIdx.map fun (x, i) => (ofNat i, x)
  | set items => items.map fun x => (x, x)
  | object members => members
  | _ => []

def isCollection : Value → Bool
  | array _ | set _ | object _ => true
  | _ => false

/-- What a name selects in something that may have no value. -/
def field? (v : Option Value) (name : String) : Option Value := v.bind (·.index? (.string name))

/-- What a chain of names selects. -/
def follow (v : Option Value) (names : List String) : Option Value := names.foldl field? v

/-- Only `false` does not hold. -/
def holds : Value → Bool
  | boolean b => b
  | _ => true

/-! ## From JSON -/

mutual
def ofJson : Json.Value → Value
  | .null => .null
  | .boolean b => .boolean b
  | .number n => .number (.ofJson n)
  | .string s => .string s
  | .array items => .array (ofItems items)
  | .object members => .object (ofMembers members)

def ofItems : List Json.Value → List Value
  | [] => []
  | x :: xs => ofJson x :: ofItems xs

def ofMembers : List (String × Json.Value) → List (Value × Value)
  | [] => []
  | (key, x) :: xs =>
    let rest := ofMembers xs
    if rest.any (·.1 == .string key) then rest else insertMember (.string key) (ofJson x) rest
end

end Value

end Clearance.Rego
