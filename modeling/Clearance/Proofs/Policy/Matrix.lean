import Clearance.Proofs.Action
import Clearance.Proofs.Policy.Roles

/-! The built-in matrix by itself and behind the engine. A request is resolved to a verb and a
category before the matrix is asked; a check of a single role asks for the words as they are
written. -/
namespace Clearance.Policy

variable {role : Role} {action other : Action} {resource : Resource}

/-! ## The matrix -/

namespace Matrix

/-- The resources that keep accounts. -/
def books : List Resource := [.ledger, .transaction]

/-- The resources that developers work on. -/
def tools : List Resource := [.zone, .flow, .apiKey]

theorem canonical_books : ∀ x ∈ books, x.canonical ∈ books := by decide

theorem canonical_tools : ∀ x ∈ tools, x.canonical ∈ tools := by decide

theorem known_iff : resource ∈ Resource.known ↔ resource ∈ tools ∨ resource ∈ books := by
  simp only [Resource.known, tools, books, List.mem_cons, List.not_mem_nil, or_false]
  grind

/-- The table of who may do what, one line for each role. -/
inductive May (action : Action) (resource : Resource) : Role → Prop
  | owner : May action resource .owner
  | admin : May action resource .admin
  | finance (covered : action = .read ∨ resource ∈ books) : May action resource .finance
  | developer (covered : resource ∈ tools ∨ resource ∈ books ∧ action = .read) :
      May action resource .developer
  | member (covered : action = .read) : May action resource .member

theorem can_finance : can .finance action resource =
    (action == .read || (resource == .ledger || resource == .transaction)) := rfl

theorem can_developer : can .developer action resource =
    (resource == .zone || resource == .flow || resource == .apiKey ||
      ((resource == .ledger || resource == .transaction) && action == .read)) := rfl

theorem can_member : can .member action resource = (action == .read) := rfl

theorem can_iff : can role action resource = true ↔ May action resource role := by
  constructor
  · intro may
    by_cases owner : role = .owner
    · exact owner ▸ .owner
    by_cases admin : role = .admin
    · exact admin ▸ .admin
    by_cases finance : role = .finance
    · subst finance
      exact .finance (by simpa [can_finance, books] using may)
    by_cases developer : role = .developer
    · subst developer
      exact .developer (by simpa [can_developer, tools, books, or_assoc] using may)
    by_cases member : role = .member
    · subst member
      exact .member (by simpa [can_member] using may)
    · simp [can, owner, admin, finance, developer, member] at may
  · intro may
    cases may with
    | owner => rfl
    | admin => rfl
    | finance covered => simpa [can_finance, books] using covered
    | developer covered => simpa [can_developer, tools, books, or_assoc] using covered
    | member covered => simpa [can_member] using covered

theorem validate_iff : validate role action resource = .ok () ↔ May action resource role := by
  rw [← can_iff, validate]
  split <;> simp_all

/-- Of an action the matrix sees only whether it reads. -/
theorem May.congr (same : action = .read ↔ other = .read) (may : May action resource role) :
    May other resource role := by
  cases may with
  | owner => exact .owner
  | admin => exact .admin
  | finance covered => exact .finance (covered.imp_left same.mp)
  | developer covered => exact .developer (covered.imp_right (.imp_right same.mp))
  | member covered => exact .member (same.mp covered)

/-- Whoever may do something to a resource other than read it may do anything to it. -/
theorem May.beyond (may : May action resource role) (writes : action ≠ .read) :
    May other resource role := by
  cases may with
  | owner => exact .owner
  | admin => exact .admin
  | finance covered => exact .finance (.inr (covered.resolve_left writes))
  | developer covered =>
    exact .developer (.inl (covered.resolve_right fun reads => writes reads.2))
  | member covered => exact absurd covered writes

/-- Whoever may do something under the words as they are written may do it under the resolved ones.
-/
theorem May.resolved (may : May action resource role) :
    May action.verb resource.canonical role := by
  have verb (reads : action = .read) : action.verb = .read := reads ▸ Action.verb_read
  cases may with
  | owner => exact .owner
  | admin => exact .admin
  | finance covered => exact .finance (covered.imp verb (canonical_books _))
  | developer covered =>
    exact .developer (covered.imp (canonical_tools _) (.imp (canonical_books _) verb))
  | member covered => exact .member (verb covered)

end Matrix

/-! ## The engine -/

namespace BuiltIn

open Clearance.Policy.Matrix

theorem target_eq (r : Request) :
    target r = (r.action.verb, (r.resource.map Resource.canonical).getD r.action.subject) := by
  obtain ⟨roles, action, resource⟩ := r
  unfold target Action.verb Action.subject
  cases resource <;> cases action.qualified? <;> rfl

/-- A request is allowed if some role of it may do what the request resolves to. -/
theorem decide_allowed (r : Request) : (decide r).allowed = true ↔ ∃ role ∈ r.roles,
    May r.action.verb ((r.resource.map Resource.canonical).getD r.action.subject) role := by
  have asked (role : Role) : RoleByRole.matrix.may r.action r.resource role =
      can role r.action.verb ((r.resource.map Resource.canonical).getD r.action.subject) := by
    simp only [RoleByRole.matrix, target_eq]
  simp only [RoleByRole.matrix_decide, RoleByRole.allowed_iff, asked, can_iff]

/-- The engine asks the matrix for the verb of an action and for the category of the named resource.
A check of the role under the words as they are written is as strict or stricter, and differs only
for another spelling of a category or for a qualified action that reads. -/
theorem decide_validate (role : Role) (action : Action) (resource : Resource) :
    ∃ decision, Engine.builtIn.decide ⟨[role], action, some resource⟩ = .ok decision ∧
      (decision.allowed = true ↔ validate role action.verb resource.canonical = .ok ()) ∧
      (validate role action resource = .ok () → decision.allowed = true) ∧
      (resource.canonical = resource → action.verb = action ∨ action.verb ≠ .read →
        (validate role action resource = .ok () ↔ decision.allowed = true)) := by
  refine ⟨_, rfl, ?_⟩
  have resolved : (decide ⟨[role], action, some resource⟩).allowed = true ↔
      May action.verb resource.canonical role := by
    simpa using decide_allowed ⟨[role], action, some resource⟩
  rw [validate_iff, validate_iff, resolved]
  refine ⟨Iff.rfl, May.resolved, fun canonical coarse => ⟨May.resolved, fun may => ?_⟩⟩
  rw [canonical] at may
  refine may.congr ?_
  rcases coarse with same | writes
  · rw [same]
  · exact ⟨fun reads => absurd reads writes, fun reads => reads ▸ Action.verb_read⟩

theorem decide_validate_update : ∃ decision,
    Engine.builtIn.decide ⟨[.finance], ⟨"payment.update"⟩, some .ledger⟩ = .ok decision ∧
      decision.allowed = true ∧ validate .finance ⟨"payment.update"⟩ .ledger = .ok () := by
  obtain ⟨decision, decided, -, -, agree⟩ := decide_validate .finance ⟨"payment.update"⟩ .ledger
  have same := agree (by decide) (.inr (by decide))
  have accepted : validate .finance ⟨"payment.update"⟩ .ledger = .ok () := rfl
  exact ⟨decision, decided, same.mp accepted, accepted⟩

/-- The two differ for a member who reads a zone by a qualified action. -/
theorem decide_validate_qualified : ¬ (validate .member ⟨"zone.read"⟩ .zone = .ok () ↔
    ∃ decision, Engine.builtIn.decide ⟨[.member], ⟨"zone.read"⟩, some .zone⟩ = .ok decision ∧
      decision.allowed = true) := by
  intro agree
  cases agree.mpr ⟨_, rfl, by decide⟩

end BuiltIn

end Clearance.Policy
