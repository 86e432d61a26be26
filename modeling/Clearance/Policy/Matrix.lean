import Clearance.Policy.Failure
import Clearance.Policy.Request

/-! The built-in matrix of roles, actions and resources, and the policy that decides by it.

| role      | may                                                        |
|-----------|------------------------------------------------------------|
| owner     | everything                                                 |
| admin     | everything                                                 |
| finance   | read; anything on ledger and transaction                   |
| developer | anything on zone, flow and api_key; read the other two     |
| member    | read                                                       |
-/
namespace Clearance.Policy

namespace Matrix

/-- Whether one role may do an action to a resource, all three taken as they are written. -/
def can (role : Role) (action : Action) (resource : Resource) : Bool :=
  let reads := action == Action.read
  let isBook := resource == Resource.ledger || resource == Resource.transaction
  if role = .owner ∨ role = .admin then true
  else if role = .finance then reads || isBook
  else if role = .developer then
    resource == Resource.zone || resource == Resource.flow || resource == Resource.apiKey ||
      (isBook && reads)
  else if role = .member then reads
  else false

/-- The first of some roles that may. -/
def canAny (roles : List Role) (action : Action) (resource : Resource) : Option Role :=
  roles.find? fun role => can role action resource

/-- The check of a single role, with the refusal spelled out. -/
def validate (role : Role) (action : Action) (resource : Resource) : Except Failure Unit :=
  if can role action resource then .ok ()
  else .error (.unauthorized role.name action.name resource.name)

end Matrix

namespace BuiltIn

/-- The verb and the category that the matrix is asked for. A qualified action gives both, but a
resource that the request names wins. -/
def target (r : Request) : Action × Resource :=
  match r.resource, r.action.qualified? with
  | some resource, some (_, verb) => (⟨verb⟩, resource.canonical)
  | some resource, none => (r.action, resource.canonical)
  | none, some (resource, verb) => (⟨verb⟩, (Resource.mk resource).canonical)
  | none, none => (r.action, ⟨""⟩)

def decide (r : Request) : Decision :=
  let (verb, resource) := target r
  match Matrix.canAny r.roles verb resource with
  | some role =>
    .allow ("role " ++ role.name ++ " may " ++ verb.name ++ " " ++ resource.name)
      ("rbac:" ++ role.name)
  | none =>
    .deny ("no role in " ++ r.roleList ++ " may " ++ verb.name ++ " " ++ resource.name)
      "rbac:default-deny"

end BuiltIn

end Clearance.Policy
