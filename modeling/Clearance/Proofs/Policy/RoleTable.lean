import Clearance.Proofs.Policy.Roles

/-! What a role table allows, role by role. -/
namespace Clearance.Policy.RoleTable

variable (table : RoleTable)

/-- Whether some role is granted what is written as a name. -/
def grants (roles : List Role) (name : String) : Bool :=
  roles.any fun role => (table.actions? role).any (·.contains name)

theorem permits_eq (role : Role) (action : Action) : table.permits role action =
    ((table.actions? role).any (·.contains Action.all.name) ||
      (table.actions? role).any (·.contains action.name)) := by
  rw [permits]
  cases table.actions? role <;> rfl

/-- Some role is permitted an action if some role, perhaps another one, is granted the wildcard or
the action. -/
theorem any_permits (roles : List Role) (action : Action) :
    (roles.any fun role => table.permits role action) =
      (table.grants roles Action.all.name || table.grants roles action.name) := by
  rw [Bool.eq_iff_iff]
  simp only [grants, permits_eq, List.any_eq_true, Bool.or_eq_true, and_or_left, exists_or]

theorem decide_allowed (r : Request) :
    (table.decide r).allowed = r.roles.any fun role => table.permits role r.action := by
  rw [Bool.eq_iff_iff, RoleByRole.document_decide, RoleByRole.allowed_iff, List.any_eq_true]
  rfl

end Clearance.Policy.RoleTable
