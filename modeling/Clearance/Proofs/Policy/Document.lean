import Clearance.Policy.Scripted
import Clearance.Proofs.Json.Value

/-! The input document of a request. It is written as text and read back before a module sees it,
and nothing of the request is lost on the way. -/
namespace Clearance.Policy
open Rego (Value)

theorem Request.json_plain (r : Request) : r.json.Plain Json.depthLimit := by
  refine .object fun m member => ?_
  obtain member | member := List.mem_append.mp member
  · obtain rfl | rfl : m = ("roles", .ofStrings r.roleNames) ∨
        m = ("action", .string r.action.name) := by
      simpa using member
    · refine .array fun x item => ?_
      obtain ⟨name, -, rfl⟩ := List.mem_map.mp item
      exact .string name
    · exact .string _
  · obtain ⟨resource, -, rfl⟩ : ∃ x, r.resource = some x ∧ ("resource", .string x.name) = m := by
      simpa [Option.mem_toList] using member
    exact .string _

theorem ofItems_strings (names : List String) :
    Value.ofItems (names.map .string) = names.map .string := by
  induction names with
  | nil => rfl
  | cons name names ih => rw [List.map_cons, Value.ofItems, Value.ofJson, ih, List.map_cons]

namespace Scripted

/-- The document that a module sees. -/
def document (r : Request) : Value :=
  .object ((.string "action", .string r.action.name) ::
    (r.resource.map fun x => (Value.string "resource", Value.string x.name)).toList ++
    [(.string "roles", .array (r.roleNames.map .string))])

theorem ofJson_json (r : Request) : Value.ofJson r.json = document r := by
  have roles : Value.ofJson (.ofStrings r.roleNames) = .array (r.roleNames.map .string) := by
    rw [Json.Value.ofStrings, Value.ofJson, ofItems_strings]
  rw [Request.json, Value.ofJson, document]
  cases r.resource with
  | none =>
    simp only [Option.map_none, Option.toList_none, List.append_nil, Value.ofMembers, roles]
    rfl
  | some x =>
    simp only [Option.map_some, Option.toList_some, List.cons_append, List.nil_append,
      Value.ofMembers, roles]
    rfl

theorem input_document (r : Request) : input r = .ok (document r) := by
  have read : Json.Value.ofText (inputText r) = .ok r.json :=
    Json.Value.ofText_compact r.json r.json_plain
  rw [input, read, ← ofJson_json]
  rfl

theorem document_roles (r : Request) :
    (document r).index? (.string "roles") = some (.array (r.roleNames.map .string)) := by
  rw [document]
  cases r.resource <;> rfl

theorem document_action (r : Request) :
    (document r).index? (.string "action") = some (.string r.action.name) := rfl

end Scripted

end Clearance.Policy
