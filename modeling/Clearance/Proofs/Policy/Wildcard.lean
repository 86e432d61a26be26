import Clearance.Proofs.Policy.Matrix
import Clearance.Proofs.Policy.RoleTable

/-! The wildcard and reading as requests. To the matrix the wildcard is a verb like any other that
does not read; to a role document it is what grants everything. Under both, whoever may do it may do
anything else, and the matrix lets whoever may do anything to a resource read it too. -/
namespace Clearance.Policy

variable {roles : List Role} {action other : Action} {resource : Resource} {role : Role}

/-- The request is decided, and allowed. -/
def Engine.Allows (engine : Engine) (r : Request) : Prop :=
  ∃ decision, engine.decide r = .ok decision ∧ decision.allowed = true

theorem Engine.allows_of_ok {engine : Engine} {r : Request} {decision : Decision}
    (decided : engine.decide r = .ok decision) :
    engine.Allows r ↔ decision.allowed = true := by
  simp only [Allows, decided, Except.ok.injEq, exists_eq_left']

/-! ## The matrix -/

namespace Matrix

theorem May.reading (may : May action resource role) : May .read resource role := by
  by_cases reads : action = .read
  · exact reads ▸ may
  · exact may.beyond reads

/-- Where no resource is named, only the roles that may do everything may do more than read. -/
theorem May.nowhere (may : May action ⟨""⟩ role) (writes : action ≠ .read) :
    May other resource role := by
  cases may with
  | owner => exact .owner
  | admin => exact .admin
  | finance covered => exact absurd (covered.resolve_left writes) (by decide)
  | developer covered =>
    exact absurd (covered.resolve_right fun book => writes book.2) (by decide)
  | member reads => exact absurd reads writes

end Matrix

namespace BuiltIn

open Clearance.Action (Qualifier)
open Clearance.Policy.Matrix

/-! A request comes to a verb and a category, its target. -/

section Target

variable {r s : Request}

theorem target_named : target ⟨roles, action, some resource⟩ = (action.verb, resource.canonical) :=
  target_eq _

theorem target_qualified (roles : List Role) {name : String} (qualifier : Qualifier name)
    (verb : String) (present : verb ≠ "") :
    target ⟨roles, ⟨name ++ "." ++ verb⟩, none⟩ = (⟨verb⟩, (Resource.mk name).canonical) := by
  have parts : (Action.mk (name ++ "." ++ verb)).qualified? = some (name, verb) :=
    Action.qualified?_iff.mpr ⟨rfl, qualifier, present⟩
  rw [target_eq, Action.verb_qualified parts, ← Action.subject_qualified parts]
  rfl

theorem target_nowhere (plain : action.qualified? = none) :
    target ⟨roles, action, none⟩ = (action, ⟨""⟩) := by
  simp only [target, plain]

theorem allows_iff (r : Request) : Engine.builtIn.Allows r ↔
    ∃ role ∈ r.roles, May (target r).1 (target r).2 role := by
  rw [Engine.allows_of_ok rfl, decide_allowed, target_eq]

/-- A request is no harder than another one of the same roles if what it comes to is open to every
role to which what the other one comes to is open. -/
theorem allows_of_may {verb other : Action} {category kind : Resource} (same : s.roles = r.roles)
    (asked : target r = (verb, category)) (asks : target s = (other, kind))
    (easier : ∀ role, May verb category role → May other kind role)
    (allowed : Engine.builtIn.Allows r) : Engine.builtIn.Allows s := by
  obtain ⟨role, member, may⟩ := (allows_iff r).mp allowed
  rw [asked] at may
  refine (allows_iff s).mpr ⟨role, same ▸ member, ?_⟩
  rw [asks]
  exact easier role may

end Target

end BuiltIn

/-! ## Role documents -/

theorem RoleTable.permits_all {table : RoleTable} (permits : table.permits role .all = true) :
    table.permits role action = true := by
  rw [permits_eq, Bool.or_self] at permits
  rw [permits_eq, permits, Bool.true_or]

theorem RoleTable.allows_iff (table : RoleTable) (r : Request) :
    (Engine.table table).Allows r ↔ ∃ role ∈ r.roles, table.permits role r.action = true := by
  rw [Engine.allows_of_ok rfl, table.decide_allowed, List.any_eq_true]

/-! ## The wildcard -/

open Clearance.Action (Qualifier)
open Clearance.Policy.BuiltIn

/-- On a resource, named apart or in front of the verb, the matrix is asked for nothing harder than
the wildcard and for nothing easier than reading; the wildcard on no resource at all is as hard as
any request. Every role document grants everything to whom it grants the wildcard. -/
theorem wildcard_strongest (roles : List Role) :
    (∀ (action : Action) (resource : Resource),
      (Engine.builtIn.Allows ⟨roles, .all, some resource⟩ →
        Engine.builtIn.Allows ⟨roles, action, some resource⟩) ∧
      (Engine.builtIn.Allows ⟨roles, action, some resource⟩ →
        Engine.builtIn.Allows ⟨roles, .read, some resource⟩)) ∧
    (∀ resource verb, Qualifier resource → verb ≠ "" →
      (Engine.builtIn.Allows ⟨roles, ⟨resource ++ "." ++ "*"⟩, none⟩ →
        Engine.builtIn.Allows ⟨roles, ⟨resource ++ "." ++ verb⟩, none⟩) ∧
      (Engine.builtIn.Allows ⟨roles, ⟨resource ++ "." ++ verb⟩, none⟩ →
        Engine.builtIn.Allows ⟨roles, ⟨resource ++ "." ++ "read"⟩, none⟩)) ∧
    (Engine.builtIn.Allows ⟨roles, .all, none⟩ →
      ∀ action resource, Engine.builtIn.Allows ⟨roles, action, resource⟩) ∧
    ∀ (table : RoleTable) (resource : Option Resource),
      (Engine.table table).Allows ⟨roles, .all, resource⟩ →
        ∀ action other, (Engine.table table).Allows ⟨roles, action, other⟩ := by
  refine ⟨fun action resource => ⟨?_, ?_⟩, fun resource verb qualifier present => ⟨?_, ?_⟩,
    fun allowed action resource => ?_, fun table resource allowed action other => ?_⟩
  · have wild : target ⟨roles, .all, some resource⟩ = (.all, resource.canonical) := by
      rw [target_named, Action.verb_eq_iff.mpr Action.qualified?_all]
    exact allows_of_may rfl wild target_named fun _ may => may.beyond Action.all_ne_read
  · have reads : target ⟨roles, .read, some resource⟩ = (.read, resource.canonical) := by
      rw [target_named, Action.verb_read]
    exact allows_of_may rfl target_named reads fun _ may => may.reading
  · have wild := target_qualified roles qualifier "*" (by decide)
    have asks := target_qualified roles qualifier verb present
    exact allows_of_may rfl wild asks fun _ may => may.beyond Action.all_ne_read
  · have asked := target_qualified roles qualifier verb present
    have reads := target_qualified roles qualifier "read" (by decide)
    exact allows_of_may rfl asked reads fun _ may => may.reading
  · have wild : target ⟨roles, .all, none⟩ = (.all, ⟨""⟩) := target_nowhere Action.qualified?_all
    exact allows_of_may (r := ⟨roles, .all, none⟩) rfl wild rfl
      (fun _ may => may.nowhere Action.all_ne_read) allowed
  · obtain ⟨role, member, permits⟩ := (table.allows_iff _).mp allowed
    exact (table.allows_iff _).mpr ⟨role, member, RoleTable.permits_all permits⟩

/-- Refunds are kept with the transactions, and what is done to them may hold a further dot. The
document lists the wildcard behind another action, for a role that stands behind an unknown one. -/
theorem wildcard_strongest_refunds :
    let roles : List Role := [⟨"guest"⟩, .finance]
    let table : RoleTable := ⟨[("finance", ["read", "*"])]⟩
    Action.Qualifier "refunds" ∧
      Engine.builtIn.Allows ⟨roles, .all, some .ledger⟩ ∧
      Engine.builtIn.Allows ⟨roles, ⟨"month.close"⟩, some .ledger⟩ ∧
      Engine.builtIn.Allows ⟨roles, ⟨"refunds.*"⟩, none⟩ ∧
      Engine.builtIn.Allows ⟨roles, ⟨"refunds.pay.twice"⟩, none⟩ ∧
      Engine.builtIn.Allows ⟨roles, ⟨"refunds.read"⟩, none⟩ ∧
      Engine.builtIn.Allows ⟨[.member, .admin], .all, none⟩ ∧
      Engine.builtIn.Allows ⟨[.member, .admin], ⟨"zone.drop"⟩, some ⟨"attic"⟩⟩ ∧
      (Engine.table table).Allows ⟨roles, .all, some .zone⟩ ∧
      (Engine.table table).Allows ⟨roles, ⟨"refunds.pay"⟩, none⟩ := by
  intro roles table
  have refunds : Action.Qualifier "refunds" := by simp [Action.Qualifier]
  have ledger : Engine.builtIn.Allows ⟨roles, .all, some .ledger⟩ := ⟨_, rfl, by decide⟩
  have wild : Engine.builtIn.Allows ⟨roles, ⟨"refunds.*"⟩, none⟩ := ⟨_, rfl, by decide⟩
  have admin : Engine.builtIn.Allows ⟨[.member, .admin], .all, none⟩ := ⟨_, rfl, by decide⟩
  have listed : (Engine.table table).Allows ⟨roles, .all, some .zone⟩ := ⟨_, rfl, by decide⟩
  obtain ⟨named, qualified, -, documents⟩ := wildcard_strongest roles
  obtain ⟨-, -, anything, -⟩ := wildcard_strongest [.member, .admin]
  obtain ⟨paid, read⟩ := qualified "refunds" "pay.twice" refunds (by decide)
  exact ⟨refunds, ledger, (named ⟨"month.close"⟩ .ledger).1 ledger, wild, paid wild,
    read (paid wild), admin, anything admin ⟨"zone.drop"⟩ (some ⟨"attic"⟩), listed,
    documents table (some .zone) listed ⟨"refunds.pay"⟩ none⟩

end Clearance.Policy
