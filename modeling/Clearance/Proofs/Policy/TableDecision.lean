import Clearance.Policy.Scripted
import Clearance.Proofs.Policy.RoleTable
import Clearance.Proofs.Policy.TableModule
import Clearance.Proofs.Rego.Rules

/-! The module of a role table decides as the table does. While it is evaluated, its data hold the
table from the first role on, and `allow` from the first rule on that has found a grant. -/
namespace Clearance.Policy.RoleTable
open Rego

/-- The data in which the two names of the module have the given values. -/
def data (allow roles : Option Rego.Value) : Rego.Value :=
  .object [(.string "warden", .object [(.string "authz", .object
    ((allow.map fun v => (.string "allow", v)).toList ++
      (roles.map fun v => (.string "roles", v)).toList))])]

section Data
variable (allow roles : Option Rego.Value) (v : Rego.Value)

theorem follow_roles :
    Rego.Value.follow (some (data allow (some v))) ["warden", "authz", "roles"] = some v := by
  cases allow <;> rfl

theorem follow_allow :
    Rego.Value.follow (some (data allow roles)) ["warden", "authz", "allow"] = allow := by
  cases allow <;> cases roles <;> rfl

theorem joinedAt_roles : v.joinedAt ["warden", "authz", "roles"] (some (data allow none)) =
    .ok (data allow (some v)) := by
  cases allow <;> rfl

theorem joinedAt_allow : v.joinedAt ["warden", "authz", "allow"] (some (data none roles)) =
    .ok (data (some v) roles) := by
  cases roles <;> rfl

/-- A rule that allows again changes nothing. -/
theorem joinedAt_allowed : Rego.Value.joinedAt (.boolean true) ["warden", "authz", "allow"]
    (some (data (some (.boolean true)) roles)) = .ok (data (some (.boolean true)) roles) := by
  cases roles <;> rfl

end Data

/-- A store on the way to the answer: what is known of it, and which allowing rules are done. -/
structure Stage (table : RoleTable) (allowed : Option Bool) (done : List Nat) (s : Store) :
    Prop where
  data : s.data = data (allowed.map .boolean) (if 2 ∈ s.evaluated then some table.value else none)
  done : ∀ i, i ≠ 2 → (i ∈ s.evaluated ↔ i ∈ done)

variable (table : RoleTable) (sites : Sites)

theorem stage_initial :
    Stage table none [] (.initial (table.module sites)) :=
  ⟨rfl, fun _ _ => Iff.rfl⟩

section Rules
variable {table} {sites : Sites} {allowed : Option Bool} {done active : List Nat}
  {s : Store} {inside : List Nat → World}

/-! ## The rule that writes out the table -/

theorem rolesRule_contribution (w : World) :
    Returns (table.rolesRule.contribution w) s (some table.value) (· = s) := by
  refine Rule.contribution_written rfl rfl rfl table.term_ranges fun l => ?_
  rw [table.term_select]
  exact returns_pure rfl

/-- The table is written out at most once, and is there afterwards. -/
theorem evaluatePath_roles (stage : Stage table allowed done s) (idle : 2 ∉ active) :
    Returns ((table.module sites).evaluatePath active inside ["roles"]) s ()
      fun t => Stage table allowed done t ∧ 2 ∈ t.evaluated := by
  have only : (table.module sites).evaluatePath active inside ["roles"] =
      (table.module sites).evaluateRule active inside 2 table.rolesRule := by
    simp [Module.evaluatePath, module, allowRule, rolesRule, List.zipIdx]
  rw [only]
  by_cases evaluated : 2 ∈ s.evaluated
  · refine (Module.evaluateRule_again evaluated).imp ?_
    rintro t rfl
    exact ⟨stage, evaluated⟩
  · refine Module.evaluateRule_first evaluated idle (rolesRule_contribution _) ?_
    rintro t rfl
    have empty := stage.data
    rw [if_neg evaluated] at empty
    refine ⟨⟨data (allowed.map .boolean) (some table.value), t.evaluated⟩, ?_, ?_, ?_⟩
    · exact congrArg (Except.map fun data => Store.mk data t.evaluated)
        (empty ▸ joinedAt_roles _ _)
    · constructor
      · simp
      · intro i other
        simp [other, stage.done i other]
    · simp

/-! ## The rules that ask it -/

/-- The two things that the module asks of its input. -/
structure Asks (input : Rego.Value) (r : Request) : Prop where
  roles : input.index? (.string "roles") = some (.array (r.roleNames.map .string))
  action : input.index? (.string "action") = some (.string r.action.name)

variable {input : Rego.Value} {r : Request} {depth : Nat}

/-- What the bodies of the module see. -/
abbrev view (table : RoleTable) (sites : Sites) (input : Rego.Value) (depth : Nat)
    (active : List Nat) : World :=
  (table.module sites).world input (depth + 1) active

/-- The variables where a role has been chosen. -/
def chosen (role : Rego.Value) : Locals := Locals.empty.opened.bind "role" role

theorem roles_select (role : Rego.Value) (stage : Stage table allowed done s) (idle : 2 ∉ active) :
    Returns ((Term.var "roles").select (view table sites input depth active)
      (chosen role) []) s (some table.value) (Stage table allowed done) := by
  have step : (Term.var "roles").select (view table sites input depth active)
      (chosen role) [] = (do
        (table.module sites).evaluatePath active
          ((table.module sites).world input depth) ["roles"]
        return (← get).at? ["warden", "authz", "roles"]) := rfl
  rw [step]
  refine returns_bind (evaluatePath_roles stage idle) ?_
  rintro t ⟨stage, evaluated⟩
  refine returns_get ?_
  have found : t.at? ["warden", "authz", "roles"] = some table.value := by
    rw [Store.at?, stage.data, if_pos evaluated, follow_roles]
  rw [found]
  exact returns_pure stage

/-- What a role of the input is asked for, and whether it is granted. -/
theorem grant_select (site : Nat) {wanted : Term} {name : String} (role : Rego.Value)
    (selects : wanted.select (view table sites input depth active)
      (chosen role) [] = return some (.string name))
    (stage : Stage table allowed done s) (idle : 2 ∉ active) :
    Returns ((Term.member none wanted (.index site (.var "roles") (.var "role"))).select
        (view table sites input depth active) (chosen role) []) s
      (truth (isMember (some (.string name)) (table.value.index? role)))
      (Stage table allowed done) := by
  have key : (Term.var "role").select (view table sites input depth active)
      (chosen role) [] = return some role := rfl
  rw [member_select, selects, pure_bind, index_select _ _ _ _ _ rfl, key, bind_assoc]
  refine returns_bind (roles_select role stage idle) fun t stage => ?_
  exact returns_pure stage

theorem allowRule_solves (site : Nat) {wanted : Term} {name : String} (plain : wanted.ranges = [])
    (selects : ∀ role, wanted.select (view table sites input depth active)
      (chosen role) [] = return some (.string name))
    (asks : Asks input r) (stage : Stage table allowed done s) (idle : 2 ∉ active) :
    Returns (solve (view table sites input depth active) true
        Locals.empty.opened (fun _ => return [[]]) (allowRule site wanted).first.body) s
      (if table.grants r.roles name then [[]] else [])
      (Stage table allowed done) := by
  have finds : (r.roleNames.map Rego.Value.string).any (fun role =>
      passes (truth (isMember (some (.string name)) (table.value.index? role)))) =
        table.grants r.roles name := by
    simp only [grants, Request.roleNames, List.any_map, Function.comp_def, value_index,
      isMember_actions]
    rfl
  rw [← finds]
  refine solve_any _ rfl ⟨s, ?_, stage⟩ fun role _ t stage => ?_
  · have reads : (Term.field (.var "input") "roles").select
        (view table sites input depth active) Locals.empty.opened [] =
          return input.index? (.string "roles") := rfl
    rw [reads, asks.roles]
    rfl
  · refine solve_test _ _ (fun next => ?_) (fun own => rfl)
      (grant_select site role (selects role) stage idle) fun u stage => returns_pure stage
    rw [Term.range, range_plain _ _ _ _ wanted plain, range_index _ _ _ _ site _ "role" rfl]
    rfl

theorem Stage.mark {i : Nat} (stage : Stage table allowed done s) (other : i ≠ 2) :
    Stage table allowed (i :: done) { s with evaluated := i :: s.evaluated } := by
  constructor
  · simp [stage.data, other.symm]
  · intro j apart
    simp [stage.done j apart]

/-- An allowing rule is true if some role of the input is granted what it wants. -/
theorem evaluateRule_allow (i site : Nat) (wanted : Term) (name : String)
    (plain : wanted.ranges = []) (asks : Asks input r) (stage : Stage table allowed done s)
    (fresh : i ∉ done) (other : i ≠ 2) (unsure : allowed ≠ some false)
    (selects : ∀ role, wanted.select (view table sites input depth [i])
      (chosen role) [] = return some (.string name)) :
    Returns ((table.module sites).evaluateRule []
        ((table.module sites).world input (depth + 1)) i (allowRule site wanted)) s ()
      (Stage table (if table.grants r.roles name then some true else allowed) (i :: done)) := by
  have missing : i ∉ s.evaluated := fun present => fresh ((stage.done i other).mp present)
  have idle : 2 ∉ [i] := by simpa using other.symm
  have solves := allowRule_solves site plain selects asks stage idle
  have gives := Rule.contribution_test rfl rfl rfl solves
  refine Module.evaluateRule_first missing (List.not_mem_nil) gives fun t stage => ?_
  split
  · have joined (roles : Option Rego.Value) :
        Rego.Value.joinedAt (.boolean true) ["warden", "authz", "allow"]
          (some (data (allowed.map .boolean) roles)) = .ok (data (some (.boolean true)) roles) := by
      match allowed with
      | none => exact joinedAt_allow roles _
      | some true => exact joinedAt_allowed roles
      | some false => exact absurd rfl unsure
    have next : Stage table (some true) done
        ⟨data (some (.boolean true)) (if 2 ∈ t.evaluated then some table.value else none),
          t.evaluated⟩ := ⟨rfl, stage.done⟩
    refine ⟨_, ?_, next.mark other⟩
    rw [Store.join, stage.data]
    exact congrArg (Except.map fun data => Store.mk data t.evaluated) (joined _)
  · exact stage.mark other

/-- The default counts where no rule has allowed. -/
theorem evaluateDefault_allow (w : World) (stage : Stage table allowed done s) :
    Returns ((table.module sites).evaluateDefault w
        ⟨["allow"], .constant (.boolean false)⟩) s ()
      (Stage table (some (allowed.getD false)) done) := by
  have step : (table.module sites).evaluateDefault w
      ⟨["allow"], .constant (.boolean false)⟩ = (do
        if ((← get).at? ["warden", "authz", "allow"]).isNone then
          set (← Rego.liftExcept
            ((← get).join ["warden", "authz", "allow"] (.boolean false)))) := rfl
  rw [step]
  refine returns_get ?_
  rw [Store.at?, stage.data, follow_allow]
  match allowed with
  | some b => exact returns_pure stage
  | none =>
    rw [Option.map_none, Option.isNone_none, if_pos rfl]
    refine returns_get ?_
    rw [Store.join, stage.data, Option.map_none, joinedAt_allow]
    exact ⟨_, rfl, rfl, stage.done⟩

/-! ## The decision -/

/-- All that is done when `allow` is asked for. -/
theorem evaluatePath_rules : (table.module sites).evaluatePath [] inside ["allow"] =
    (do
      let m := table.module sites
      m.evaluateRule [] inside 0 (allowRule sites.wildcard wildcardTerm)
      m.evaluateRule [] inside 1 (allowRule sites.action actionTerm)
      m.evaluateDefault (inside []) ⟨["allow"], .constant (.boolean false)⟩) := by
  simp [Module.evaluatePath, module, allowRule, rolesRule, List.zipIdx]

/-- The first time, both rules are tried. -/
theorem evaluatePath_allow (asks : Asks input r) (stage : Stage table none [] s) :
    Returns ((table.module sites).evaluatePath []
        ((table.module sites).world input (depth + 1)) ["allow"]) s ()
      (Stage table (some (r.roles.any fun role => table.permits role r.action)) [1, 0]) := by
  rw [evaluatePath_rules]
  refine returns_bind (evaluateRule_allow 0 sites.wildcard wildcardTerm Action.all.name rfl asks
    stage (by simp) (by simp) (by simp) fun _ => rfl) fun t stage => ?_
  have unsure : (if table.grants r.roles Action.all.name then some true else none) ≠
      some false := by
    split <;> simp
  refine returns_bind (evaluateRule_allow 1 sites.action actionTerm r.action.name rfl asks stage
    (by simp) (by simp) unsure fun _ => congrArg pure asks.action) fun u stage => ?_
  refine (evaluateDefault_allow _ stage).imp fun v ends => ?_
  have answer : (if table.grants r.roles r.action.name then some true
      else if table.grants r.roles Action.all.name then some true else none).getD false =
        r.roles.any fun role => table.permits role r.action := by
    rw [any_permits]
    cases table.grants r.roles Action.all.name <;> cases table.grants r.roles r.action.name <;> rfl
  rw [← answer]
  exact ends

/-- Once `allow` has a value, it keeps it. -/
theorem evaluatePath_decided {b : Bool} (stage : Stage table (some b) [1, 0] s) :
    Returns ((table.module sites).evaluatePath [] inside ["allow"]) s ()
      (Stage table (some b) [1, 0]) := by
  have first : 0 ∈ s.evaluated := (stage.done 0 (by simp)).mpr (by simp)
  have second : 1 ∈ s.evaluated := (stage.done 1 (by simp)).mpr (by simp)
  rw [evaluatePath_rules]
  refine returns_bind (Module.evaluateRule_again first) ?_
  rintro t rfl
  refine returns_bind (Module.evaluateRule_again second) ?_
  rintro u rfl
  exact evaluateDefault_allow _ stage

/-- The query, once it is read. -/
def allowTerm : Term := .field (.field (.field (.var "data") "warden") "authz") "allow"

theorem allow_select {b : Bool} (l : Locals) (free : l.find? "data" = none)
    (path : Returns ((table.module sites).evaluatePath []
        ((table.module sites).world input Module.depthLimit) ["allow"]) s ()
      (Stage table (some b) [1, 0])) :
    Returns (allowTerm.select ((table.module sites).queryWorld input) l []) s
      (some (.boolean b)) (Stage table (some b) [1, 0]) := by
  have step : allowTerm.select ((table.module sites).queryWorld input) l [] =
      (Term.var "data").select ((table.module sites).queryWorld input) l
        ["warden", "authz", "allow"] := rfl
  rw [step, var_select _ _ _ _ free]
  refine returns_bind path fun t stage => ?_
  refine returns_get ?_
  rw [Store.at?, stage.data, follow_allow]
  exact returns_pure stage

/-- The answers to the query: `allow` has one value, and it is listed even if it is false. -/
theorem answers_allow (asks : Asks input r) (stage : Stage table none [] s) :
    Returns (answersOrFirst ((table.module sites).queryWorld input)
        Locals.empty.opened [.term allowTerm]) s
      [[some (.boolean (r.roles.any fun role => table.permits role r.action))]]
      (Stage table (some (r.roles.any fun role => table.permits role r.action)) [1, 0]) :=
  answersOrFirst_term rfl rfl (fun _ => rfl)
    (allow_select _ rfl (evaluatePath_allow asks stage))
    fun _ stage => allow_select _ rfl (evaluatePath_decided stage)

theorem defaultQuery_read : queryOfText? Scripted.defaultQuery = some [.term allowTerm] := by
  have tokens : Token.ofText Scripted.defaultQuery = some
      [⟨.name "data", 1, false⟩, ⟨.symbol ".", 1, true⟩, ⟨.name "warden", 1, true⟩,
        ⟨.symbol ".", 1, true⟩, ⟨.name "authz", 1, true⟩, ⟨.symbol ".", 1, true⟩,
        ⟨.name "allow", 1, true⟩] := by decide +kernel
  rw [queryOfText?, Parser.whole, tokens]
  rfl

theorem defaultQuery_order (arity : String → Option Nat) :
    arrangeBody ⟨["input", "data"], arity⟩ [.term allowTerm] [] = some [0] :=
  arrangeBody_eq [] [[⟨none, []⟩]] rfl rfl rfl

theorem query_answer (asks : Asks input r) :
    query (table.module sites) input Scripted.defaultQuery =
      .ok [[some (.boolean (r.roles.any fun role => table.permits role r.action))]] := by
  obtain ⟨t, run, -⟩ := answers_allow asks (table.stage_initial sites)
  rw [query, module_arrange]
  have each (s : Surroundings) :
      arrangeEach s [.term allowTerm] = some [.term allowTerm] := rfl
  simp only [defaultQuery_read, defaultQuery_order, each]
  have arranged : atPositions [0] [Statement.term allowTerm] = [.term allowTerm] := rfl
  rw [arranged, run]
  rfl

end Rules

end Clearance.Policy.RoleTable
