import Clearance.Policy.Engine
import Clearance.Policy.Shipped
import Clearance.Proofs.Policy.TableDecision
import Clearance.Proofs.Policy.Verdict

/-! The shipped module and the shipped role document are two forms of one role table. -/
namespace Clearance.Policy
open Rego (Term Rule)

theorem Interpreter.standard_answer {m : Rego.Module} {document : Rego.Value} {query : String}
    {results : Rego.QueryResults} (answered : Rego.query m document query = .ok results) :
    Interpreter.standard m document query = .ok results := by
  rw [Interpreter.standard, answered]
  rfl

namespace RoleTable

/-! ## Reading a table off its module -/

def writtenText? : Term → Option String
  | .constant (.string s) => some s
  | _ => none

def writtenMember? : Term × Term → Option (String × List String)
  | (.constant (.string role), .array actions) =>
    (actions.mapM writtenText?).map fun actions => (role, actions)
  | _ => none

/-- The place of an allowing rule, and what it wants. -/
def asked? : Rule → Option (Nat × Term)
  | ⟨["allow"], ["allow"], .whole, ⟨[.someIn none (.var "role") (.field (.var "input") "roles"),
      .term (.member none wanted (.index site (.var "roles") (.var "role")))], none⟩, []⟩ =>
    some (site, wanted)
  | _ => none

def written? : Rule → Option RoleTable
  | ⟨["roles"], ["roles"], .whole, ⟨[], some (.object members)⟩, []⟩ =>
    (members.mapM writtenMember?).map mk
  | _ => none

/-- The sites and the table of a module that is written for a table. -/
def ofModule? : Rego.Module → Option (Sites × RoleTable)
  | ⟨["warden", "authz"], [], [⟨["allow"], .constant (.boolean false)⟩],
      [wildcard, action, roles]⟩ =>
    match asked? wildcard, asked? action, written? roles with
    | some (wildcardSite, .constant (.string "*")),
        some (actionSite, .field (.var "input") "action"), some table =>
      some (⟨wildcardSite, actionSite⟩, table)
    | _, _, _ => none
  | _ => none

theorem mapM_inverse {f : α → Option β} {g : β → α} (inverse : ∀ a b, f a = some b → a = g b)
    (as : List α) (bs : List β) (mapped : as.mapM f = some bs) : as = bs.map g := by
  induction as generalizing bs with
  | nil => simp_all
  | cons a as ih =>
    rw [List.mapM_cons] at mapped
    cases head : f a with
    | none => simp [head] at mapped
    | some b =>
      cases tail : as.mapM f with
      | none => simp [head, tail] at mapped
      | some rest =>
        obtain rfl : b :: rest = bs := by simpa [head, tail] using mapped
        rw [List.map_cons, ← inverse a b head, ← ih rest tail]

theorem writtenText_eq (t : Term) (s : String) (read : writtenText? t = some s) :
    t = .constant (.string s) := by
  unfold writtenText? at read
  split at read
  · cases read; rfl
  · cases read

theorem writtenMember_eq (m : Term × Term) (member : String × List String)
    (read : writtenMember? m = some member) :
    m = (.constant (.string member.1), actionsTerm member.2) := by
  unfold writtenMember? at read
  split at read
  · obtain ⟨actions, each, rfl⟩ := Option.map_eq_some_iff.mp read
    rw [mapM_inverse writtenText_eq _ _ each, actionsTerm, List.map_map]
    rfl
  · cases read

theorem asked_eq (r : Rule) (site : Nat) (wanted : Term) (read : asked? r = some (site, wanted)) :
    r = allowRule site wanted := by
  unfold asked? at read
  split at read
  · cases read; rfl
  · cases read

theorem written_eq (r : Rule) (table : RoleTable) (read : written? r = some table) :
    r = table.rolesRule := by
  unfold written? at read
  split at read
  · obtain ⟨members, each, rfl⟩ := Option.map_eq_some_iff.mp read
    rw [mapM_inverse writtenMember_eq _ _ each]
    rfl
  · cases read

/-- A module that a table is read off is the module of that table. -/
theorem ofModule_eq (m : Rego.Module) (sites : Sites) (table : RoleTable)
    (read : ofModule? m = some (sites, table)) : m = table.module sites := by
  unfold ofModule? at read
  split at read
  · next first second third =>
    split at read
    · next asksAll asksAction writes =>
      cases read
      rw [asked_eq _ _ _ asksAll, asked_eq _ _ _ asksAction, written_eq _ _ writes]
      rfl
    · cases read
  · cases read

/-! ## Agreement -/

/-- The module of a table always decides, and allows what the table allows. -/
theorem module_decides (table : RoleTable) (sites : Sites) (source : String) (r : Request) :
    ∃ decision,
      (Scripted.mk source (table.module sites) Scripted.defaultQuery).decide r = .ok decision ∧
      decision.allowed = (table.decide r).allowed := by
  let granted := r.roles.any fun role => table.permits role r.action
  have asks : Asks (Scripted.document r) r :=
    ⟨Scripted.document_roles r, Scripted.document_action r⟩
  have answered : Interpreter.standard (table.module sites) (Scripted.document r)
      Scripted.defaultQuery = .ok [[some (.boolean granted)]] :=
    Interpreter.standard_answer (query_answer asks)
  refine ⟨_, Scripted.decideWith_ok answered, ?_⟩
  rw [decide_allowed, Bool.eq_iff_iff, Scripted.Verdict.decision_allowed]
  exact iff_of_eq (Scripted.Verdict.decided.injEq granted true)

end RoleTable

namespace Shipped

/-- The table that both shipped documents hold. -/
def table : RoleTable where
  members := [
    ("owner", ["*"]),
    ("admin", ["*"]),
    ("finance", ["payment.create", "payment.read", "refund.create", "ledger.read", "ledger.update",
      "transaction.read", "transaction.update"]),
    ("developer", ["zone.create", "zone.read", "zone.update", "flow.create", "flow.deploy",
      "flow.read", "api_key.create", "api_key.read", "ledger.read", "transaction.read"]),
    ("member", ["zone.read", "flow.read", "ledger.read", "transaction.read"])]

theorem module_table :
    (Rego.Module.ofText? module).bind RoleTable.ofModule? = some (⟨90, 72⟩, table) := by
  rw [Rego.Module.ofText?, Rego.Parser.whole, Rego.Token.ofText]
  unfold module
  simp only [String.toList_append]
  decide +kernel

theorem roleDocument_table : RoleTable.ofText roleDocument = .ok table := by
  have read : RoleTable.reader roleDocument.toList = .read table ['\n'] := by
    unfold roleDocument
    simp only [String.toList_append]
    decide +kernel
  rw [RoleTable.ofText, Json.decode, read]
  rfl

/-- The two shipped documents make engines that decide every request alike, and the one that
evaluates the module always decides. -/
theorem engines_agree (source : String) :
    ∃ policy table, Scripted.ofText source module Scripted.defaultQuery = .ok policy ∧
      RoleTable.ofText roleDocument = .ok table ∧
      ∀ r : Request, ∃ scripted listed,
        (Engine.scripted policy).decide r = .ok scripted ∧
        (Engine.table table).decide r = .ok listed ∧
        scripted.allowed = listed.allowed := by
  obtain ⟨m, parsed, read⟩ := Option.bind_eq_some_iff.mp module_table
  obtain rfl := RoleTable.ofModule_eq m _ table read
  have made : Scripted.ofText source module Scripted.defaultQuery =
      .ok ⟨source, table.module ⟨90, 72⟩, Scripted.defaultQuery⟩ := by
    rw [Scripted.ofText, parsed]
  refine ⟨_, table, made, roleDocument_table, fun r => ?_⟩
  obtain ⟨decision, decided, agrees⟩ := table.module_decides ⟨90, 72⟩ source r
  exact ⟨decision, _, decided, rfl, agrees⟩

end Shipped

end Clearance.Policy
