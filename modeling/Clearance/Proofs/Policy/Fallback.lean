import Clearance.Proofs.Policy.Matrix
import Clearance.Proofs.Policy.RoleDocument
import Clearance.Proofs.Policy.RoleTable
import Clearance.Proofs.Policy.Selection
import Clearance.Proofs.Policy.Shipped

/-! What changes when the built-in matrix stands in for the shipped role document. The matrix
revokes nothing, but its rules are coarser: it knows actions by their verb and category alone. -/
namespace Clearance.Policy

open Clearance.Policy.Matrix

variable {role : Role} {action : Action}

/-- What the matrix lets a role do beyond a table: read, and do anything to a category to which the
table lets the role do something other than read. -/
inductive Coarser (table : RoleTable) (action : Action) : Role → Prop
  | finance (reads : action.verb = .read) : Coarser table action .finance
  | developer (reads : action.verb = .read) (known : action.subject ∈ Resource.known) :
      Coarser table action .developer
  | member (reads : action.verb = .read) : Coarser table action .member
  | sibling {role : Role} {granted : Action} (permits : table.permits role granted = true)
      (writes : granted.verb ≠ .read) (same : granted.subject = action.subject) :
      Coarser table action role

namespace Shipped

/-- Every entry of the shipped table is an entry of the matrix. -/
theorem entries_may : ∀ m ∈ table.members, ∀ name ∈ m.2,
    (name = "*" → m.1 = "owner" ∨ m.1 = "admin") ∧
      can ⟨m.1⟩ (Action.mk name).verb (Action.mk name).subject = true := by
  decide

theorem may_of_permits (permits : table.permits role action = true) :
    May action.verb action.subject role := by
  obtain ⟨name⟩ := role
  obtain ⟨earlier, actions, later, split, -, covers⟩ := (table.permits_iff _ action).mp permits
  have entry : (name, actions) ∈ table.members := by simp [split]
  rcases covers with all | listed
  · rcases (entries_may _ entry _ all).1 rfl with rfl | rfl
    · exact .owner
    · exact .admin
  · exact can_iff.mp (entries_may _ entry _ listed).2

/-- What the shipped table lets finance write to, and developers. -/
theorem books_written : ∀ x ∈ books, ∃ granted : Action,
    table.permits .finance granted = true ∧ granted.verb ≠ .read ∧ granted.subject = x := by
  intro x book
  simp only [books, List.mem_cons, List.not_mem_nil, or_false] at book
  rcases book with rfl | rfl
  · exact ⟨⟨"ledger.update"⟩, by decide, by decide, by decide⟩
  · exact ⟨⟨"payment.create"⟩, by decide, by decide, by decide⟩

theorem tools_written : ∀ x ∈ tools, ∃ granted : Action,
    table.permits .developer granted = true ∧ granted.verb ≠ .read ∧ granted.subject = x := by
  intro x tool
  simp only [tools, List.mem_cons, List.not_mem_nil, or_false] at tool
  rcases tool with rfl | rfl | rfl
  · exact ⟨⟨"zone.create"⟩, by decide, by decide, by decide⟩
  · exact ⟨⟨"flow.deploy"⟩, by decide, by decide, by decide⟩
  · exact ⟨⟨"api_key.create"⟩, by decide, by decide, by decide⟩

theorem owner_permits (action : Action) : table.permits .owner action = true :=
  (table.permits_covers ..).mpr ⟨["*"], by decide, .inl (by simp)⟩

theorem admin_permits (action : Action) : table.permits .admin action = true :=
  (table.permits_covers ..).mpr ⟨["*"], by decide, .inl (by simp)⟩

/-- For actions that name no resource apart, the matrix is the shipped table with coarser rules. -/
theorem may_iff : May action.verb action.subject role ↔
    table.permits role action = true ∨ Coarser table action role := by
  constructor
  · intro may
    cases may with
    | owner => exact .inl (owner_permits action)
    | admin => exact .inl (admin_permits action)
    | finance covered =>
      -- From here on the table itself may well not list the action.
      right
      rcases covered with reads | book
      · exact .finance reads
      · obtain ⟨granted, permits, writes, same⟩ := books_written _ book
        exact .sibling permits writes same
    | developer covered =>
      right
      rcases covered with tool | ⟨book, reads⟩
      · obtain ⟨granted, permits, writes, same⟩ := tools_written _ tool
        exact .sibling permits writes same
      · exact .developer reads (known_iff.mpr (.inr book))
    | member reads => exact .inr (.member reads)
  · rintro (permits | coarser)
    · exact may_of_permits permits
    · cases coarser with
      | finance reads => exact .finance (.inl reads)
      | developer reads known =>
        exact .developer ((known_iff.mp known).imp_right fun book => ⟨book, reads⟩)
      | member reads => exact .member reads
      | sibling permits writes same => exact same ▸ (may_of_permits permits).beyond writes

theorem load_table {files : Files} {path : String} (holds : files.Holds path roleDocument) :
    RoleTable.load files path = .ok table :=
  RoleTable.load_iff.mpr ⟨path, roleDocument, rfl, holds, roleDocument_table⟩

/-- Wherever the shipped document is read from, the table that it makes allows nothing that the
matrix would not allow as well, as long as no resource is named apart: who falls back from the
document to the matrix loses no permission. -/
theorem matrix_revokes_nothing :
    ∃ table, (∀ (files : Files) (path : String), files.Holds path roleDocument →
        RoleTable.load files path = .ok table) ∧
      ∀ (roles : List Role) (action : Action), ∃ listed decision,
        (Engine.table table).decide ⟨roles, action, none⟩ = .ok listed ∧
        Engine.builtIn.decide ⟨roles, action, none⟩ = .ok decision ∧
        (listed.allowed = true → decision.allowed = true) := by
  refine ⟨table, fun _ _ => load_table, fun roles action => ⟨_, _, rfl, rfl, fun allowed => ?_⟩⟩
  rw [RoleTable.decide_allowed, List.any_eq_true] at allowed
  obtain ⟨role, member, permits⟩ := allowed
  exact (BuiltIn.decide_allowed ⟨roles, action, none⟩).mpr ⟨role, member, may_of_permits permits⟩

/-- A refund is a transaction to the matrix; the role that may make one stands behind two that may
not. -/
theorem matrix_revokes_nothing_refund :
    let files : Files := fun path =>
      if path = "config/policies.json" then .file roleDocument.toUTF8 else .absent .notFound
    let r : Request := ⟨[⟨"guest"⟩, .member, .finance], .refundCreate, none⟩
    files.Holds "config/policies.json" roleDocument ∧
      ∃ table listed decision, RoleTable.load files "config/policies.json" = .ok table ∧
        (Engine.table table).decide r = .ok listed ∧ listed.allowed = true ∧
        Engine.builtIn.decide r = .ok decision ∧ decision.allowed = true := by
  intro files r
  have holds : files.Holds "config/policies.json" roleDocument := Files.holds_text rfl
  obtain ⟨table, loads, keeps⟩ := matrix_revokes_nothing
  obtain ⟨listed, decision, lists, decides, kept⟩ := keeps r.roles r.action
  have same : table = Shipped.table :=
    Except.ok.inj ((loads files _ holds).symm.trans (load_table holds))
  have allowed : listed.allowed = true := by
    obtain rfl := Except.ok.inj lists
    rw [same]
    decide
  exact ⟨holds, table, listed, decision, loads _ _ holds, lists, allowed, decides, kept allowed⟩

end Shipped

theorem Engine.eq_builtIn {engine : Engine} (hardcoded : engine.backend = .hardcoded) :
    engine = .builtIn := by
  cases engine with
  | builtIn => rfl
  | table _ => cases hardcoded
  | scripted _ => cases hardcoded

namespace Selection

/-- When no source loads, a request that names no resource is allowed exactly if the engine of the
shipped document would allow it, or one of its roles gains by the coarser rules of the matrix. -/
theorem fallback_coarser (s : Sources) (files : Files) (r : Request)
    (fallen : (ofSources s files).engine.backend = .hardcoded) (nowhere : r.resource = none) :
    ∃ table decision listed, RoleTable.ofText Shipped.roleDocument = .ok table ∧
      (ofSources s files).engine.decide r = .ok decision ∧
      (Engine.table table).decide r = .ok listed ∧
      (decision.allowed = true ↔
        listed.allowed = true ∨ ∃ role ∈ r.roles, Coarser table r.action role) := by
  rw [Engine.eq_builtIn fallen]
  refine ⟨_, _, _, Shipped.roleDocument_table, rfl, rfl, ?_⟩
  rw [BuiltIn.decide_allowed, RoleTable.decide_allowed, nowhere, List.any_eq_true]
  simp only [Option.map_none, Option.getD_none, Shipped.may_iff, and_or_left, exists_or]

/-- No text stands where the two sources are looked for first. -/
def garbled : Files := fun path =>
  if path = "config/policies.rego" ∨ path = "config/policies.json" then .file ⟨#[0xFF]⟩
  else .absent .notFound

theorem fallback_coarser_garbled :
    (ofSources .default garbled).engine.backend = .hardcoded ∧
      ∃ decision, (ofSources .default garbled).engine.decide ⟨[.developer], ⟨"zone.delete"⟩, none⟩ =
        .ok decision ∧ decision.allowed = true := by
  have fallen : (ofSources .default garbled).engine.backend = .hardcoded := by decide
  obtain ⟨table, decision, listed, read, decided, -, allowed⟩ :=
    fallback_coarser .default garbled ⟨[.developer], ⟨"zone.delete"⟩, none⟩ fallen rfl
  obtain rfl := Except.ok.inj (Shipped.roleDocument_table.symm.trans read)
  refine ⟨fallen, decision, decided, allowed.mpr (.inr ⟨.developer, by simp, ?_⟩)⟩
  have permits : Shipped.table.permits .developer ⟨"zone.create"⟩ = true := by decide
  exact .sibling permits (by decide) (by decide)

/-- A member who reads is allowed by the matrix, and would not have been by the shipped document. -/
theorem fallback_allows_more :
    (ofSources .default garbled).engine.backend = .hardcoded ∧
      ∃ table decision listed, RoleTable.ofText Shipped.roleDocument = .ok table ∧
        (ofSources .default garbled).engine.decide ⟨[.member], .read, none⟩ = .ok decision ∧
        (Engine.table table).decide ⟨[.member], .read, none⟩ = .ok listed ∧
        decision.allowed = true ∧ listed.allowed = false := by
  have fallen : (ofSources .default garbled).engine.backend = .hardcoded := by decide
  rw [Engine.eq_builtIn fallen]
  exact ⟨rfl, _, _, _, Shipped.roleDocument_table, rfl, rfl, by decide, by decide⟩

end Selection

end Clearance.Policy
