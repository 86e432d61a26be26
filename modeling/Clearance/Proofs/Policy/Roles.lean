import Clearance.Policy.Engine

/-! The roles of a request. The built-in matrix and role documents ask one role after the other, and
the first that may decides as if it stood alone. A module need not go by single roles. -/
namespace Clearance.Policy

/-- The request as one role makes it alone. -/
def Request.alone (r : Request) (role : Role) : Request := { r with roles := [role] }

/-! ## Asking role by role -/

/-- A policy that asks role by role. Whether a role may, and what is then said of it, hangs on the
action and the resource and not on the other roles. -/
structure RoleByRole where
  may : Action → Option Resource → Role → Bool
  granted : Action → Option Resource → Role → String
  refused : Request → String
  label : String

namespace RoleByRole

def decide (p : RoleByRole) (r : Request) : Decision :=
  match r.roles.find? (p.may r.action r.resource) with
  | some role => .allow (p.granted r.action r.resource role) (p.label ++ role.name)
  | none => .deny (p.refused r) (p.label ++ "default-deny")

variable (p : RoleByRole) (r : Request)

theorem decide_none (nobody : ∀ role ∈ r.roles, p.may r.action r.resource role = false) :
    p.decide r = .deny (p.refused r) (p.label ++ "default-deny") := by
  have unfound : r.roles.find? (p.may r.action r.resource) = none :=
    List.find?_eq_none.mpr fun role member => by simp [nobody role member]
  rw [decide, unfound]

theorem decide_first {earlier later : List Role} {role : Role}
    (split : r.roles = earlier ++ role :: later) (may : p.may r.action r.resource role = true)
    (before : ∀ other ∈ earlier, p.may r.action r.resource other = false) :
    p.decide r = .allow (p.granted r.action r.resource role) (p.label ++ role.name) := by
  have found : r.roles.find? (p.may r.action r.resource) = some role :=
    List.find?_eq_some_iff_append.mpr
      ⟨may, earlier, later, split, fun other member => by simp [before other member]⟩
  rw [decide, found]

/-- Either nobody may, or there is a first role that may. -/
theorem nobody_or_first : (∀ role ∈ r.roles, p.may r.action r.resource role = false) ∨
    ∃ earlier role later, r.roles = earlier ++ role :: later ∧
      p.may r.action r.resource role = true ∧
      ∀ other ∈ earlier, p.may r.action r.resource other = false := by
  cases found : r.roles.find? (p.may r.action r.resource) with
  | none => exact .inl fun role member => by simpa using List.find?_eq_none.mp found role member
  | some role =>
    obtain ⟨may, earlier, later, split, before⟩ := List.find?_eq_some_iff_append.mp found
    exact .inr ⟨earlier, role, later, split, may,
      fun other member => by simpa using before other member⟩

theorem allowed_iff : (p.decide r).allowed = true ↔
    ∃ role ∈ r.roles, p.may r.action r.resource role = true := by
  rcases p.nobody_or_first r with nobody | ⟨earlier, role, later, split, may, before⟩
  · rw [p.decide_none r nobody]
    simp only [Decision.deny, Bool.false_eq_true, false_iff]
    rintro ⟨role, member, may⟩
    simp [nobody role member] at may
  · rw [p.decide_first r split may before]
    exact ⟨fun _ => ⟨role, by simp [split], may⟩, fun _ => rfl⟩

/-- A role that is alone is allowed what it may. -/
theorem allowed_alone (role : Role) :
    (p.decide (r.alone role)).allowed = true ↔ p.may r.action r.resource role = true := by
  simp [allowed_iff, Request.alone]

/-- Only which roles there are counts, and more roles are allowed no less. -/
theorem allowed_mono (other : Request) (action : other.action = r.action)
    (resource : other.resource = r.resource) (more : r.roles ⊆ other.roles)
    (allowed : (p.decide r).allowed = true) : (p.decide other).allowed = true := by
  obtain ⟨role, member, may⟩ := (p.allowed_iff r).mp allowed
  exact (p.allowed_iff other).mpr ⟨role, more member, by rwa [action, resource]⟩

def matrix : RoleByRole where
  may action resource role :=
    let (verb, category) := BuiltIn.target ⟨[], action, resource⟩
    Matrix.can role verb category
  granted action resource role :=
    let (verb, category) := BuiltIn.target ⟨[], action, resource⟩
    "role " ++ role.name ++ " may " ++ verb.name ++ " " ++ category.name
  refused r :=
    let (verb, category) := BuiltIn.target r
    "no role in " ++ r.roleList ++ " may " ++ verb.name ++ " " ++ category.name
  label := "rbac:"

def document (table : RoleTable) : RoleByRole where
  may action _ role := table.permits role action
  granted action _ role := "role " ++ role.name ++ " is granted " ++ action.name
  refused r := "no role in " ++ r.roleList ++ " is granted " ++ r.action.name
  label := "json:"

theorem matrix_decide : BuiltIn.decide r = matrix.decide r := rfl

theorem document_decide (table : RoleTable) : table.decide r = (document table).decide r := rfl

end RoleByRole

/-! ## Policies in force -/

/-- The policies that ask role by role, with what the names of their rules begin with. -/
inductive Engine.Tabular : Engine → String → Prop
  | matrix : Tabular .builtIn "rbac:"
  | document (table : RoleTable) : Tabular (.table table) "json:"

theorem Engine.Tabular.roleByRole {engine : Engine} {label : String}
    (tabular : engine.Tabular label) :
    ∃ p : RoleByRole, p.label = label ∧ ∀ r, engine.decide r = .ok (p.decide r) := by
  cases tabular with
  | matrix => exact ⟨.matrix, rfl, fun r => congrArg Except.ok (RoleByRole.matrix_decide r)⟩
  | document table =>
    exact ⟨.document table, rfl, fun r => congrArg Except.ok (RoleByRole.document_decide r table)⟩

/-- The matrix and role documents decide every request. A request is allowed exactly if one of its
roles is allowed alone; then the first such role decides, and the decision names it and is the one
that it gets alone. Whether a request is allowed hangs on which roles it has, not on their order or
number, and further roles never turn an allow into a deny. -/
theorem Engine.roles_disjunctive {engine : Engine} {label : String} (tabular : engine.Tabular label)
    (r : Request) : ∃ d, engine.decide r = .ok d ∧
      (d.allowed = true ↔ ∃ role ∈ r.roles, ∃ alone,
        engine.decide (r.alone role) = .ok alone ∧ alone.allowed = true) ∧
      (d.allowed = true → ∃ earlier role later, r.roles = earlier ++ role :: later ∧
        (∀ other ∈ earlier, ∃ alone,
          engine.decide (r.alone other) = .ok alone ∧ alone.allowed = false) ∧
        engine.decide (r.alone role) = .ok d ∧ d.rules = [label ++ role.name]) ∧
      (d.allowed = false → d.rules = [label ++ "default-deny"]) ∧
      ∀ roles, ∃ e, engine.decide { r with roles := roles } = .ok e ∧
        ((∀ role, role ∈ roles ↔ role ∈ r.roles) → e.allowed = d.allowed) ∧
        (r.roles ⊆ roles → d.allowed = true → e.allowed = true) := by
  obtain ⟨p, rfl, decides⟩ := tabular.roleByRole
  simp only [decides, Except.ok.injEq, exists_eq_left']
  refine ⟨?_, ?_, ?_, fun roles => ⟨fun same => ?_, p.allowed_mono r { r with roles } rfl rfl⟩⟩
  · simp only [p.allowed_iff r, p.allowed_alone]
  · intro allowed
    rcases p.nobody_or_first r with nobody | ⟨earlier, role, later, split, may, before⟩
    · rw [p.decide_none r nobody] at allowed
      cases allowed
    · have whole := p.decide_first r split may before
      have alone : p.decide (r.alone role) = p.decide r := by
        rw [whole]
        exact p.decide_first (r.alone role) (List.nil_append [role]).symm may (by simp)
      refine ⟨earlier, role, later, split, fun other member => ?_, alone, by rw [whole]; rfl⟩
      rw [Bool.eq_false_iff, Ne, p.allowed_alone, before other member]
      exact Bool.false_ne_true
  · intro denied
    rcases p.nobody_or_first r with nobody | ⟨earlier, role, later, split, may, before⟩
    · rw [p.decide_none r nobody]
      rfl
    · rw [p.decide_first r split may before] at denied
      cases denied
  · rw [Bool.eq_iff_iff]
    exact ⟨p.allowed_mono _ r rfl rfl fun role member => (same role).mp member,
      p.allowed_mono r { r with roles } rfl rfl fun role member => (same role).mpr member⟩

/-- An unknown role stands before the one that decides, which stands there twice, and a role that
may do everything comes between. -/
theorem Engine.roles_disjunctive_viewer :
    let table : RoleTable := ⟨[("viewer", ["zone.read"]), ("ops", ["*"])]⟩
    let r : Request := ⟨[⟨"guest"⟩, ⟨"viewer"⟩, ⟨"ops"⟩, ⟨"viewer"⟩], ⟨"zone.read"⟩, none⟩
    (Engine.table table).Tabular "json:" ∧ r.roles ⊆ [⟨"ops"⟩, ⟨"viewer"⟩, ⟨"guest"⟩] ∧
      ∃ d e, (Engine.table table).decide r = .ok d ∧ d.allowed = true ∧ d.rules = ["json:viewer"] ∧
        (Engine.table table).decide { r with roles := [⟨"ops"⟩, ⟨"viewer"⟩, ⟨"guest"⟩] } = .ok e ∧
        e.allowed = true := by
  intro table r
  have tabular : (Engine.table table).Tabular "json:" := .document table
  have rearranged : r.roles ⊆ [⟨"ops"⟩, ⟨"viewer"⟩, ⟨"guest"⟩] := by decide
  obtain ⟨d, decided, allowed, -, -, others⟩ := Engine.roles_disjunctive tabular r
  obtain ⟨e, again, -, kept⟩ := others [⟨"ops"⟩, ⟨"viewer"⟩, ⟨"guest"⟩]
  have viewer : d.allowed = true := allowed.mpr ⟨⟨"viewer"⟩, by decide, _, rfl, by decide⟩
  obtain rfl := Except.ok.inj decided
  exact ⟨tabular, rearranged, _, e, decided, viewer, by decide, again, kept rearranged viewer⟩

end Clearance.Policy
