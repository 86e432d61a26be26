import Clearance.Policy.RoleTable
import Clearance.Proofs.Json.Bracketed
import Clearance.Proofs.Name

/-! Role documents: which texts are one, and what one means. Of the members of a role only the last
one counts, and of its actions only which ones they are. -/
namespace Clearance.Policy.RoleTable

open Json.Grammar

variable (table : RoleTable) (role : Role) (action : Action)

/-! ## The member that counts -/

/-- Whether a list of actions covers an action, by its name or by the wildcard. -/
def Covers (actions : List String) (action : Action) : Prop :=
  "*" ∈ actions ∨ action.name ∈ actions

theorem actions_iff (actions : List String) :
    table.actions? role = some actions ↔ ∃ earlier later,
      table.members = earlier ++ (role.name, actions) :: later ∧ ∀ m ∈ later, m.1 ≠ role.name := by
  rw [actions?, Option.map_eq_some_iff]
  constructor
  · rintro ⟨⟨name, actions⟩, found, rfl⟩
    obtain ⟨named, later, earlier, split, others⟩ := List.find?_eq_some_iff_append.mp found
    obtain rfl : name = role.name := by simpa using named
    refine ⟨earlier.reverse, later.reverse, ?_, fun m member => ?_⟩
    · rw [← List.reverse_reverse table.members, split]
      simp
    · simpa using others m (List.mem_reverse.mp member)
  · rintro ⟨earlier, later, split, others⟩
    refine ⟨(role.name, actions), List.find?_eq_some_iff_append.mpr ⟨by simp, later.reverse,
      earlier.reverse, by simp [split], fun m member => ?_⟩, rfl⟩
    simpa using others m (List.mem_reverse.mp member)

theorem permits_covers : table.permits role action = true ↔
    ∃ actions, table.actions? role = some actions ∧ Covers actions action := by
  rw [permits]
  cases table.actions? role <;> simp [Covers, Action.all]

/-- A role is permitted what its last member covers. -/
theorem permits_iff : table.permits role action = true ↔ ∃ earlier actions later,
    table.members = earlier ++ (role.name, actions) :: later ∧
      (∀ m ∈ later, m.1 ≠ role.name) ∧ Covers actions action := by
  simp only [permits_covers, actions_iff]
  constructor
  · rintro ⟨actions, ⟨earlier, later, split, others⟩, covers⟩
    exact ⟨earlier, actions, later, split, others, covers⟩
  · rintro ⟨earlier, actions, later, split, others, covers⟩
    exact ⟨actions, ⟨earlier, later, split, others⟩, covers⟩

theorem roleCount_eq : table.roleCount = (table.members.map Prod.fst).toFinset.card :=
  sortedNames_length _

/-! ## Members in another order -/

/-- What the members of a role say, in their order: each gives a set of actions. -/
def sayings (members : List (String × List String)) (role : String) : List (Finset String) :=
  (members.filter (·.1 == role)).map (·.2.toFinset)

/-- Two documents that say the same of each role. Distinct roles may stand in different orders, and
actions may be listed in different orders and more or less often. -/
def Rearranged (members others : List (String × List String)) : Prop :=
  ∀ role, sayings members role = sayings others role

theorem actions_sayings :
    (table.actions? role).map List.toFinset = (sayings table.members role.name).getLast? := by
  rw [actions?, sayings, Option.map_map, List.getLast?_map, ← List.head?_filter,
    List.filter_reverse, List.head?_reverse]
  rfl

theorem mem_roles {members : List (String × List String)} {name : String} :
    name ∈ members.map Prod.fst ↔ sayings members name ≠ [] := by
  simp [sayings]

variable {table role action} {other : RoleTable}

theorem permits_rearranged (same : Rearranged table.members other.members) :
    table.permits role action = other.permits role action := by
  have covered (t : RoleTable) : t.permits role action = true ↔ ∃ set,
      (t.actions? role).map List.toFinset = some set ∧ ("*" ∈ set ∨ action.name ∈ set) := by
    simp [permits_covers, Covers]
  rw [Bool.eq_iff_iff, covered, covered, actions_sayings, actions_sayings, same role.name]

theorem roleCount_rearranged (same : Rearranged table.members other.members) :
    table.roleCount = other.roleCount := by
  have roles : (table.members.map Prod.fst).toFinset = (other.members.map Prod.fst).toFinset := by
    ext name
    rw [List.mem_toFinset, List.mem_toFinset, mem_roles, mem_roles, same name]
  rw [roleCount_eq, roleCount_eq, roles]

/-! ## Texts -/

/-- A text is a role document with the given members: one object of lists of strings, and nothing
else but blanks. The members of a role that stands in it more than once are all there. -/
def Document (text : String) (members : List (String × List String)) : Prop :=
  Whole (ObjectOf (ListOf Quoted)) text members

theorem document_iff (text : String) (members : List (String × List String)) :
    Document text members ↔ ofText text = .ok ⟨members⟩ := by
  have recognises := Json.map_recognises (Json.list_recognises Json.string_recognises)
  rw [Document, ← Json.decode_iff recognises, ofText, reader, Json.decode_map]
  cases Json.decode (Json.map (Json.list Json.string)) text with
  | ok ms => simp [Except.map, Except.mapError]
  | error e => simp [Except.map, Except.mapError]

theorem ofText_error {text : String} {failure : Failure} (refused : ofText text = .error failure) :
    ∃ e, failure = .malformed e := by
  rw [ofText] at refused
  cases decoded : Json.decode reader text with
  | ok table => rw [decoded] at refused; cases refused
  | error e =>
    rw [decoded] at refused
    exact ⟨e, (Except.error.inj refused).symm⟩

/-- A text is taken for a policy exactly if it is a role document, and any other text is malformed.
The policy permits a role what the last member of that role covers, and counts the distinct roles.
A document that says the same of each role makes a policy that permits and counts the same. -/
theorem document_meaning (text : String) :
    ((∃ table, ofText text = .ok table) ↔ ∃ members, Document text members) ∧
    (∀ failure, ofText text = .error failure → ∃ e, failure = .malformed e) ∧
    ∀ members, Document text members → ∃ table, ofText text = .ok table ∧
      (∀ role action, table.permits role action = true ↔ ∃ earlier actions later,
        members = earlier ++ (role.name, actions) :: later ∧
          (∀ m ∈ later, m.1 ≠ role.name) ∧ Covers actions action) ∧
      table.roleCount = (members.map Prod.fst).toFinset.card ∧
      ∀ otherText others, Document otherText others → Rearranged members others →
        ∃ other, ofText otherText = .ok other ∧ other.roleCount = table.roleCount ∧
          ∀ role action, other.permits role action = table.permits role action := by
  refine ⟨?_, fun _ => ofText_error, fun members document => ?_⟩
  · constructor
    · rintro ⟨table, read⟩
      exact ⟨table.members, (document_iff ..).mpr read⟩
    · rintro ⟨members, document⟩
      exact ⟨_, (document_iff ..).mp document⟩
  · refine ⟨_, (document_iff ..).mp document, permits_iff _, roleCount_eq _, ?_⟩
    intro otherText others otherDocument same
    exact ⟨_, (document_iff ..).mp otherDocument, (roleCount_rearranged same).symm,
      fun _ _ => (permits_rearranged same).symm⟩

/-- A role whose first member grants every action, and whose last one, spelled with an escape,
grants a single one. -/
theorem document_meaning_last_member : ∃ table,
    ofText "\x7b \"ops\": [\"*\"], \"\\u006fps\" :[\"write\"]\x7d\n" = .ok table ∧
      table.roleCount = 1 ∧ table.permits ⟨"ops"⟩ ⟨"write"⟩ = true ∧
      table.permits ⟨"ops"⟩ ⟨"read"⟩ = false := by
  have document : Document "\x7b \"ops\": [\"*\"], \"\\u006fps\" :[\"write\"]\x7d\n"
      [("ops", ["*"]), ("ops", ["write"])] := (document_iff ..).mpr (by decide +kernel)
  obtain ⟨table, read, permits, count, -⟩ := (document_meaning _).2.2 _ document
  refine ⟨table, read, count.trans (by decide), (permits _ _).mpr ?_, ?_⟩
  · exact ⟨[("ops", ["*"])], ["write"], [], rfl, by simp, .inr (by simp)⟩
  · rw [Bool.eq_false_iff, Ne, permits]
    rintro ⟨earlier, actions, later, split, others, covers⟩
    match earlier, split with
    | [], split =>
      obtain ⟨-, rfl⟩ := List.cons.inj split
      simp at others
    | [_], split =>
      obtain ⟨-, rfl, -⟩ : _ ∧ ["write"] = actions ∧ later = [] := by simpa using split
      simp [Covers] at covers
    | _ :: _ :: _, split => simp at split

end Clearance.Policy.RoleTable
