import Clearance.Policy.RoleTable
import Clearance.Proofs.Rego.Evaluation
import Clearance.Proofs.Rego.Value
import Clearance.Rego.Arrangement

/-! A role table as a module of the policy language. The module writes the table out as a rule of
its own, and two rules ask it for each role of the input: one for the wildcard, one for the action.
-/
namespace Clearance.Policy.RoleTable
open Rego

/-! ## The table as a term -/

def actionsValue (actions : List String) : Rego.Value := .array (actions.map .string)

def actionsTerm (actions : List String) : Term := .array ((actions.map .string).map .constant)

/-- The table as it is written out in the module. -/
def term (table : RoleTable) : Term :=
  .object (table.members.map fun m => (.constant (.string m.1), actionsTerm m.2))

def value (table : RoleTable) : Rego.Value :=
  .objectOf (table.members.map fun m => (.string m.1, actionsValue m.2))

/-! ## The rules -/

/-- Allows if some role of the input is granted what is wanted. -/
def allowRule (site : Nat) (wanted : Term) : Rule where
  path := ["allow"]
  place := ["allow"]
  target := .whole
  first := ⟨[.someIn none (.var "role") (.field (.var "input") "roles"),
    .term (.member none wanted (.index site (.var "roles") (.var "role")))], none⟩
  others := []

def rolesRule (table : RoleTable) : Rule where
  path := ["roles"]
  place := ["roles"]
  target := .whole
  first := ⟨[], some table.term⟩
  others := []

def wildcardTerm : Term := .constant (.string Action.all.name)

def actionTerm : Term := .field (.var "input") "action"

/-- The places in the text of a module where the table is asked. -/
structure Sites where
  wildcard : Nat
  action : Nat
  deriving DecidableEq

def module (sites : Sites) (table : RoleTable) : Rego.Module where
  package := ["warden", "authz"]
  imports := []
  defaults := [⟨["allow"], .constant (.boolean false)⟩]
  rules := [allowRule sites.wildcard wildcardTerm, allowRule sites.action actionTerm,
    table.rolesRule]

/-! ## What its terms select -/

variable (table : RoleTable)

theorem term_ranges : table.term.ranges = [] := by
  rw [term, Term.ranges]
  induction table.members with
  | nil => rfl
  | cons m members ih =>
    rw [List.map_cons, Term.rangesOfMembers, actionsTerm, Term.ranges, Term.ranges,
      rangesOfAll_constants, ih]
    rfl

section Selections
variable (w : World) (l : Locals)

theorem actionsTerm_select (actions : List String) :
    (actionsTerm actions).select w l [] = return some (actionsValue actions) := by
  rw [actionsTerm, array_select, List.length_map, argumentsOf_constants]
  rfl

theorem membersOf_written (members : List (String × List String)) :
    membersOf w l (members.map fun m => (.constant (.string m.1), actionsTerm m.2)) =
      return some (members.map fun m => (.string m.1, actionsValue m.2)) := by
  induction members with
  | nil => rfl
  | cons m members ih =>
    have key : (Term.constant (.string m.1)).select w l [] = return some (.string m.1) := rfl
    rw [List.map_cons, membersOf_cons, key, actionsTerm_select, ih]
    rfl

theorem term_select : table.term.select w l [] = return some table.value := by
  rw [term, object_select, membersOf_written]
  rfl

end Selections

/-! ## What its value holds -/

/-- The actions of a role are those of the table. -/
theorem value_index (role : Role) :
    table.value.index? (.string role.name) = (table.actions? role).map actionsValue := by
  rw [value, Rego.Value.index_objectOf, actions?, Option.map_map]
  rfl

/-- Something is granted by a list of actions that has it; a role without actions grants nothing. -/
theorem isMember_actions (wanted : String) (actions : Option (List String)) :
    isMember (some (.string wanted)) (actions.map actionsValue) =
      actions.any (·.contains wanted) := by
  cases actions with
  | none => rfl
  | some actions =>
    rw [Option.map_some, actionsValue, isMember, List.any_map, Option.any_some,
      List.contains_eq_any_beq]
    rfl

/-! ## Its arrangement -/

theorem arrangeAll_constants (s : Surroundings) (vs : List Rego.Value) :
    arrangeAll s (vs.map .constant) = some (vs.map .constant) := by
  induction vs with
  | nil => rw [List.map_nil, arrangeAll]
  | cons v vs ih => rw [List.map_cons, arrangeAll, Term.arrange, ih]; rfl

theorem term_arrange (s : Surroundings) : table.term.arrange s = some table.term := by
  have each : arrangeMembers s (table.members.map fun m =>
        (Term.constant (.string m.1), actionsTerm m.2)) =
      some (table.members.map fun m => (.constant (.string m.1), actionsTerm m.2)) := by
    induction table.members with
    | nil => rw [List.map_nil, arrangeMembers]
    | cons m members ih =>
      rw [List.map_cons, arrangeMembers, actionsTerm, Term.arrange, Term.arrange,
        arrangeAll_constants, ih]
      rfl
  rw [term, Term.arrange, each]
  rfl

theorem rolesRule_arrange (s : Surroundings) :
    table.rolesRule.arrange s = some table.rolesRule := by
  rw [Rule.arrange, rolesRule]
  simp only [Rule.heads, Rule.withHeads, Option.toList, List.nil_append, arrangeAll,
    term_arrange, List.isEmpty_nil, if_true]
  rfl

/-- A body that passes the checks is put into order by what its statements define. -/
theorem arrangeBody_eq {s : Surroundings} {body : List Statement} {outputs : List Term}
    (names : List String) (definitions : List (List Definition))
    (named : bodyNames s body outputs = names)
    (defined : body.map (BodyScope.definitions
      ⟨s.seeing names, names, body.flatMap Statement.given⟩) = definitions)
    (checked : ((usesOfBody (s.seeing names) body ++ usesOfAll (s.seeing names) outputs).all
        (s.seeing names).visible.contains &&
      assignsFirst (s.seeing names) [] body && allFit body) = true) :
    arrangeBody s body outputs = some (order definitions) := by
  subst named defined
  exact if_pos checked

section Arrangement
variable (site : Nat) (arity : String → Option Nat)

/-- What the bodies of the module see. -/
def surroundings : Surroundings := ⟨["input", "data", "allow", "allow", "roles", "allow"], arity⟩

/-- A role is found before anything is asked for it. -/
theorem allowRule_order (wanted : Term) (asked : wanted = wildcardTerm ∨ wanted = actionTerm) :
    arrangeBody (surroundings arity) (allowRule site wanted).first.body [] = some [0, 1] := by
  have order : order [[⟨some "role", []⟩], [⟨none, ["role"]⟩]] = [0, 1] := by decide +kernel
  rw [← order]
  refine arrangeBody_eq ["role", "role"] _ ?_ ?_ ?_
  all_goals rcases asked with rfl | rfl <;> rfl

theorem allowRule_arrange (wanted : Term) (asked : wanted = wildcardTerm ∨ wanted = actionTerm) :
    (allowRule site wanted).arrange (surroundings arity) = some (allowRule site wanted) := by
  let rule := allowRule site wanted
  have solved :
      arrangeWith ((surroundings arity).seeing (rule.parameters.flatMap Term.patternNames))
        rule.first.body (rule.heads ++ rule.first.value.toList) = some (rule.first.body, []) := by
    change arrangeWith (surroundings arity) rule.first.body [] = _
    rw [arrangeWith, allowRule_order site arity wanted asked]
    rcases asked with rfl | rfl <;> rfl
  simp only [Rule.arrange]
  rw [solved]
  rfl

/-- The statements of the module are in an order in which they can be solved. -/
theorem module_arrange (sites : Sites) :
    (table.module sites).arrange arity = some (table.module sites) := by
  have clear : (table.module sites).hasClearArities = true := rfl
  have seen : (⟨(table.module sites).visible, arity⟩ : Surroundings) = surroundings arity := rfl
  rw [Module.arrange, clear, seen]
  simp [module, allowRule_arrange, rolesRule_arrange, Term.arrange]

end Arrangement

end Clearance.Policy.RoleTable
