import Clearance.Json.Value
import Clearance.Log
import Clearance.Name
import Clearance.Policy.Failure

/-! What is asked of a policy, what it answers, and the wire forms of both. -/
namespace Clearance.Policy

/-- May someone with these roles do this, perhaps to this resource? -/
structure Request where
  roles : List Role
  action : Action
  resource : Option Resource := none
  deriving DecidableEq, Repr

def Request.roleNames (r : Request) : List String := r.roles.map (·.name)

/-- The roles of a request as they are listed in a refusal. -/
def Request.roleList (r : Request) : String := "[" ++ ", ".intercalate r.roleNames ++ "]"

/-- `rules` names what led to the answer. -/
structure Decision where
  allowed : Bool
  reason : String
  rules : List String
  deriving DecidableEq, Repr

def Decision.allow (reason rule : String) : Decision := ⟨true, reason, [rule]⟩

def Decision.deny (reason rule : String) : Decision := ⟨false, reason, [rule]⟩

/-- A decision or why there is none, and what was reported on the way. -/
structure Ruling where
  decision : Except Failure Decision
  events : List LogEvent

/-- Where a policy comes from. -/
inductive Backend where
  | rego
  | json
  | hardcoded
  deriving DecidableEq, Repr

namespace Backend

def name : Backend → String
  | .rego => "rego"
  | .json => "json"
  | .hardcoded => "hardcoded"

def known : List Backend := [rego, json, hardcoded]

end Backend

/-! ## Wire forms -/

open Json (Reader Value RecordShape required)

def roleReader : Reader Role := Json.string.map Role.mk

def actionReader : Reader Action := Json.string.map Action.mk

def resourceReader : Reader Resource := Json.string.map Resource.mk

def backendReader : Reader Backend := Json.variant (Backend.known.map fun b => (b.name, b))

structure RequestDraft where
  roles : Option (List Role) := none
  action : Option Action := none
  resource : Option (Option Resource) := none

def Request.shape : RecordShape RequestDraft Request where
  kind := "PolicyContext"
  fields := [
    { name := "roles", isSet := (·.roles.isSome), required := true
      fill := fun d => (Json.list roleReader).map fun x => { d with roles := some x } },
    { name := "action", isSet := (·.action.isSome), required := true
      fill := fun d => actionReader.map fun x => { d with action := some x } },
    { name := "resource", isSet := (·.resource.isSome), required := false
      fill := fun d => (Json.optional resourceReader).map fun x => { d with resource := some x } }]
  blank := {}
  finish := fun d => do
    return ⟨← required "roles" d.roles, ← required "action" d.action, d.resource.getD none⟩

structure DecisionDraft where
  allowed : Option Bool := none
  reason : Option String := none
  rules : Option (List String) := none

def Decision.shape : RecordShape DecisionDraft Decision where
  kind := "PolicyResult"
  fields := [
    { name := "allowed", isSet := (·.allowed.isSome), required := true
      fill := fun d => Json.boolean.map fun x => { d with allowed := some x } },
    { name := "reason", isSet := (·.reason.isSome), required := true
      fill := fun d => Json.string.map fun x => { d with reason := some x } },
    { name := "rules", isSet := (·.rules.isSome), required := true
      fill := fun d => (Json.list Json.string).map fun x => { d with rules := some x } }]
  blank := {}
  finish := fun d => do
    return ⟨← required "allowed" d.allowed, ← required "reason" d.reason, ← required "rules" d.rules⟩

def Request.json (r : Request) : Value :=
  .object <| [("roles", .ofStrings r.roleNames), ("action", .string r.action.name)] ++
    (r.resource.map fun x => ("resource", Value.string x.name)).toList

def Decision.json (d : Decision) : Value :=
  .object [("allowed", .boolean d.allowed), ("reason", .string d.reason),
    ("rules", .ofStrings d.rules)]

end Clearance.Policy
