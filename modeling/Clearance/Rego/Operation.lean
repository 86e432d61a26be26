import Clearance.Rego.Fault
import Clearance.Rego.Syntax

/-! Operators and comparisons on values. -/
namespace Clearance.Rego

def onNumbers (f : Number → Number → Except Fault Number) (a b : Value) : Except Fault Value :=
  match a, b with
  | .number x, .number y => return .number (← f x y)
  | _, _ => throw .wrongOperands

def onSets (f : List Value → List Value → Value) (a b : Value) : Except Fault Value :=
  match a, b with
  | .set xs, .set ys => return f xs ys
  | _, _ => throw .wrongOperands

def difference (xs ys : List Value) : Value := .set (xs.filter fun x => ! ys.contains x)

def divided (x y : Number) : Except Fault Number :=
  if y.isZero then throw .divisionByZero else return x.div y

def remainder (x y : Number) : Except Fault Number :=
  if y.isZero then throw .divisionByZero
  else match x.rem? y with
    | some r => return r
    | none => throw .wrongOperands

def isSet : Value → Bool
  | .set _ => true
  | _ => false

namespace Operator

def apply (op : Operator) (a b : Value) : Except Fault Value :=
  match op with
  | .add => onNumbers (fun x y => return x.add y) a b
  | .subtract =>
    if isSet a || isSet b then onSets difference a b
    else onNumbers (fun x y => return x.sub y) a b
  | .multiply => onNumbers (fun x y => return x.mul y) a b
  | .divide => onNumbers divided a b
  | .remainder => onNumbers Rego.remainder a b
  | .union => onSets (fun xs ys => Value.setOf (xs ++ ys)) a b
  | .intersection => onSets (fun xs ys => .set (xs.filter ys.contains)) a b

end Operator

def Comparison.test (op : Comparison) (a b : Value) : Bool :=
  match op, a.order b with
  | .equal, o => o == .eq
  | .different, o => o != .eq
  | .less, o => o == .lt
  | .lessOrEqual, o => o != .gt
  | .greater, o => o == .gt
  | .greaterOrEqual, o => o != .lt

/-- Whether a collection has an item, or a key with an item. What has no value is found where a key
selects nothing. -/
def isMember (item collection : Option Value) : Bool :=
  match collection with
  | some (.array items) => items.any (item == some ·)
  | some (.set items) => items.any (item == some ·)
  | some (.object members) => members.any (item == some ·.2)
  | _ => false

/-- Whether a key selects an item. -/
def isMemberAt (key item : Option Value) (collection : Value) : Bool :=
  key.bind collection.index? == item

/-- A collection that has keys apart from its items. -/
def keyed? : Option Value → Option Value
  | some (.array items) => some (.array items)
  | some (.object members) => some (.object members)
  | _ => none

end Clearance.Rego
