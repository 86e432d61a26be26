/-! What stops an evaluation. An evaluation that is stopped has no value at all; one that finds
nothing has no solution, which is not a fault. -/
namespace Clearance.Rego

inductive Fault where
  | malformedQuery
  | unknownVariable
  | unknownFunction (name : String)
  | wrongArguments (function : String)
  | wrongOperands
  | wrongPattern
  | notCollection
  | wrongDefault (name : String)
  | divisionByZero
  | redefinition (name : String)
  | conflictingValues
  | conflictingOutputs
  | conflictingKeys
  | recursion (name : String)
  | tooDeep (name : String)
  deriving DecidableEq, Repr

def Fault.message : Fault → String
  | malformedQuery => "malformed query"
  | unknownVariable => "use of an undefined variable"
  | unknownFunction name => "could not find function " ++ name
  | wrongArguments function => "wrong arguments for " ++ function
  | wrongOperands => "wrong operands"
  | wrongPattern => "value does not have the form of the pattern"
  | notCollection => "not a collection"
  | wrongDefault name => "invalid default value for " ++ name
  | divisionByZero => "divide by zero"
  | redefinition name => "redefinition of " ++ name
  | conflictingValues => "conflicting values for a rule"
  | conflictingOutputs => "more than one output"
  | conflictingKeys => "conflicting values for a key"
  | recursion name => "recursion in " ++ name
  | tooDeep name => "evaluation too deep at " ++ name

end Clearance.Rego
