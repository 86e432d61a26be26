import Clearance.Policy.Failure
import Clearance.Policy.Request

/-! Policies that are a document: an object that maps each role to the list of its actions. -/
namespace Clearance.Policy

/-- The members of a role document in their order. A role may stand in it more than once; the last
member of a role is the one that counts. -/
structure RoleTable where
  members : List (String × List String)
  deriving DecidableEq, Repr

namespace RoleTable

def reader : Json.Reader RoleTable := (Json.map (Json.list Json.string)).map RoleTable.mk

def ofText (text : String) : Except Failure RoleTable :=
  (Json.decode reader text).mapError .malformed

def load (files : Files) (path : String) : Except Failure RoleTable := do
  let text ← (files.readText path).mapError (.unreadable path)
  ofText text

/-- The actions of a role, if the document speaks of it. -/
def actions? (table : RoleTable) (role : Role) : Option (List String) :=
  (table.members.reverse.find? (·.1 == role.name)).map (·.2)

/-- A role is granted its listed actions, and every action if it lists the wildcard. -/
def permits (table : RoleTable) (role : Role) (action : Action) : Bool :=
  match table.actions? role with
  | some actions => actions.contains Action.all.name || actions.contains action.name
  | none => false

def roleCount (table : RoleTable) : Nat := (sortedNames (table.members.map (·.1))).length

def decide (table : RoleTable) (r : Request) : Decision :=
  match r.roles.find? fun role => table.permits role r.action with
  | some role =>
    .allow ("role " ++ role.name ++ " is granted " ++ r.action.name) ("json:" ++ role.name)
  | none =>
    .deny ("no role in " ++ r.roleList ++ " is granted " ++ r.action.name) "json:default-deny"

end RoleTable

end Clearance.Policy
