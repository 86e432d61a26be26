import Clearance.Proofs.Policy.Verdict
import Clearance.Proofs.Rego.Value

/-! What an interpreter is given of a request. The request goes through a text, and its names may
hold quotes, brackets and all else that has a meaning in such a text; still each of them comes out
at its own place, and nothing comes out that the request does not hold. -/
namespace Clearance.Policy.Scripted

open Rego (Value)

variable {r r₁ r₂ : Request} {key x : Value} {members written : List (String × Json.Value)}

/-- What stands at which key in the input document of a request. -/
inductive Carried (r : Request) : Value → Value → Prop where
  | roles : Carried r (.string "roles") (.array (r.roles.map fun role => .string role.name))
  | action : Carried r (.string "action") (.string r.action.name)
  | resource {resource : Resource} (named : r.resource = some resource) :
      Carried r (.string "resource") (.string resource.name)

/-- The input document that a text says. -/
def documentOf (text : String) : Except String Value :=
  ((Json.Value.ofText text).map Value.ofJson).mapError Json.Error.message

/-! ## The members of a document -/

theorem keys_distinct (whole : r.json = .object members) : (members.map Prod.fst).Nodup := by
  obtain rfl := Json.Value.object.inj whole
  cases r.resource <;> simp

theorem input_object (whole : r.json = .object members) :
    input r = .ok (.object (Value.ofMembers members)) := by
  rw [input_document, ← ofJson_json, whole, Value.ofJson]

theorem mem_document {members : List (Value × Value)} (whole : document r = .object members) :
    (key, x) ∈ members ↔ Carried r key x := by
  obtain rfl := Value.object.inj whole
  rw [Request.roleNames, List.map_map]
  constructor
  · intro member
    simp only [List.cons_append, List.mem_cons, List.mem_append, Option.mem_toList,
      Option.map_eq_some_iff, List.not_mem_nil, or_false] at member
    rcases member with ⟨rfl, rfl⟩ | ⟨resource, named, ⟨rfl, rfl⟩⟩ | ⟨rfl, rfl⟩
    · exact .action
    · exact .resource named
    · exact .roles
  · intro carried
    cases carried with
    | roles => simp
    | action => simp
    | resource named => simp [named]

/-- A request is read from its members in whatever order they are written. -/
theorem documentOf_rearranged (whole : r.json = .object members) (perm : written.Perm members) :
    documentOf (Json.Value.object written).compact = input r := by
  have plain := r.json_plain
  rw [whole] at plain
  cases plain with
  | object values =>
    have rearranged : (Json.Value.object written).Plain Json.depthLimit :=
      .object fun m member => values m (perm.mem_iff.mp member)
    have same : Value.ofMembers members = Value.ofMembers written :=
      Value.ofMembers_eq_of_perm (keys_distinct whole) perm.symm
    rw [documentOf, Json.Value.ofText_compact _ rearranged, input_object whole, same]
    simp [Except.map, Except.mapError, Value.ofJson]

/-! ## Requests told apart -/

theorem document_resource (r : Request) : (document r).index? (.string "resource") =
    r.resource.map fun resource => .string resource.name := by
  rw [document]
  cases r.resource <;> rfl

theorem document_injective (same : document r₁ = document r₂) : r₁ = r₂ := by
  have lookup (name : String) := congrArg (·.index? (.string name)) same
  have roles := lookup "roles"
  have action := lookup "action"
  have resource := lookup "resource"
  simp only [document_roles, document_action, document_resource, Option.some.injEq,
    Value.array.injEq, Value.string.injEq, Request.roleNames, List.map_map] at roles action resource
  obtain ⟨roles₁, ⟨action₁⟩, resource₁⟩ := r₁
  obtain ⟨roles₂, ⟨action₂⟩, resource₂⟩ := r₂
  obtain rfl : action₁ = action₂ := action
  obtain rfl : roles₁ = roles₂ := by
    refine (List.map_inj_right ?_).mp roles
    rintro ⟨name⟩ ⟨other⟩ alike
    simpa using alike
  obtain rfl : resource₁ = resource₂ := by
    refine Option.map_injective ?_ resource
    rintro ⟨name⟩ ⟨other⟩ alike
    simpa using alike
  rfl

theorem input_injective : input r₁ = input r₂ ↔ r₁ = r₂ := by
  rw [input_document, input_document, Except.ok.injEq]
  exact ⟨document_injective, congrArg document⟩

/-- Any two requests are told apart by an interpreter that knows one of their documents. -/
theorem decideWith_separates (p : Scripted)
    (alike : ∀ interpret, p.decideWith interpret r₁ = p.decideWith interpret r₂) : r₁ = r₂ := by
  let knows : Interpreter := fun _ seen _ =>
    if seen == document r₁ then .ok [[some (.boolean true)]] else .error "unknown"
  have known : knows p.module (document r₁) p.query = .ok [[some (.boolean true)]] :=
    if_pos (beq_self_eq_true _)
  cases seen : document r₂ == document r₁ with
  | true => exact (document_injective (eq_of_beq seen)).symm
  | false =>
    have unknown : knows p.module (document r₂) p.query = .error "unknown" := by simp [knows, seen]
    have answers := alike knows
    rw [decideWith_ok known, decideWith_error unknown] at answers
    cases answers

/-- The input document of a request is an object that has the names of its roles, in their order,
the name of its action, and the name of its resource if it has one, and nothing else; no name can
add to the others or change them. It does not matter in which order its members are written. Two
requests have one input document only if they are the same, so that no two are alike to all
interpreters. -/
theorem input_faithful :
    (∀ r, ∃ members, input r = .ok (.object members) ∧ Value.Ordered members ∧
      ∀ key x, (key, x) ∈ members ↔ Carried r key x) ∧
    (∀ r members written, r.json = .object members → written.Perm members →
      documentOf (Json.Value.object written).compact = input r) ∧
    (∀ r₁ r₂, input r₁ = input r₂ ↔ r₁ = r₂) ∧
    ∀ p r₁ r₂, (∀ interpret, decideWith interpret p r₁ = decideWith interpret p r₂) ↔ r₁ = r₂ := by
  refine ⟨fun r => ?_, fun r members written => documentOf_rearranged, fun r₁ r₂ => input_injective,
    fun p r₁ r₂ => ⟨decideWith_separates p, fun same _ => by rw [same]⟩⟩
  have object : document r = .object (Value.ofMembers _) := (ofJson_json r).symm
  exact ⟨_, input_object rfl, (Value.ofMembers_distinct (keys_distinct rfl)).2,
    fun key x => mem_document object⟩

/-- The action is written to close its string and to list another role behind it. -/
theorem input_faithful_quoted :
    let r : Request := ⟨[.member], ⟨"read\",\"roles\":[\"owner"⟩, none⟩
    let written := [("action", Json.Value.string r.action.name), ("roles", .ofStrings ["member"])]
    written.Perm [("roles", .ofStrings ["member"]), ("action", .string r.action.name)] ∧
      documentOf (Json.Value.object written).compact = input r ∧
      input r ≠ input ⟨[.owner], r.action, none⟩ ∧
      ∃ members, input r = .ok (.object members) ∧
        (Value.string "roles", Value.array [.string "member"]) ∈ members := by
  intro r written
  obtain ⟨faithful, rearranged, injective, -⟩ := input_faithful
  obtain ⟨members, read, -, carried⟩ := faithful r
  have perm : written.Perm [("roles", .ofStrings ["member"]), ("action", .string r.action.name)] :=
    .swap _ _ _
  have forged : r ≠ ⟨[.owner], r.action, none⟩ := by decide
  exact ⟨perm, rearranged r _ written rfl perm, fun same => forged ((injective _ _).mp same),
    members, read, (carried _ _).mpr .roles⟩

end Clearance.Policy.Scripted
