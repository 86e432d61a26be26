import Clearance.Rego.Fault
import Clearance.Rego.Value

/-! What a body sees outside itself. Rules are evaluated when a name first leads to them; what they
have given so far is kept in a store. -/
namespace Clearance.Rego

/-- The values of the rules that have been evaluated, in one document, and which rules these are. -/
structure Store where
  data : Value
  evaluated : List Nat

abbrev Evaluation := StateT Store (Except Fault)

/-- A function that is called with the values of its arguments. -/
structure Callable where
  arity : Nat
  /-- Whether all arguments are evaluated, or only those up to the first one without a value. -/
  evaluatesAll : Bool
  apply : List Value → Evaluation (Option Value)

structure World where
  /-- What a name and a chain of fixed names below it lead to, if the name leads anywhere. -/
  look? : String → List String → Option (Evaluation (Option Value))
  /-- Whether a name between brackets is one of a rule. -/
  isRule : String → Bool
  function? : String → Option Callable

end Clearance.Rego
