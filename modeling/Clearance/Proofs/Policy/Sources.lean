import Clearance.Policy.Selection

/-! Sources after some changes. A change writes some fields and leaves the others alone; what a
field holds in the end is what the last change that writes it has written. -/
namespace Clearance.Policy.Sources

/-! ## Fields -/

inductive Field where
  | regoPath
  | jsonPath
  | regoLocations
  | jsonLocations
  | query

abbrev Field.Value : Field → Type
  | .regoPath | .jsonPath => Option String
  | .regoLocations | .jsonLocations => List String
  | .query => String

def get (s : Sources) : (field : Field) → field.Value
  | .regoPath => s.regoPath
  | .jsonPath => s.jsonPath
  | .regoLocations => s.regoLocations
  | .jsonLocations => s.jsonLocations
  | .query => s.query

/-- What a change writes into a field, if it writes it at all. -/
def Change.writes : Change → (field : Field) → Option field.Value
  | .regoPath path, .regoPath => some (some path)
  | .jsonPath path, .jsonPath => some (some path)
  | .query text, .query => some text
  | .regoLocations paths, .regoLocations => some paths
  | .jsonLocations paths, .jsonLocations => some paths
  | .withoutDiscovery, .regoLocations => some []
  | .withoutDiscovery, .jsonLocations => some []
  | _, _ => none

variable {s t : Sources} {field : Field} {value : field.Value} {c first second : Change}
  {changes earlier later : List Change}

theorem eq_of_get (same : ∀ field, s.get field = t.get field) : s = t := by
  cases s
  cases t
  exact (mk.injEq ..).mpr ⟨same .regoPath, same .jsonPath, same .regoLocations,
    same .jsonLocations, same .query⟩

theorem get_change (s : Sources) (c : Change) (field : Field) :
    (s.change c).get field = (c.writes field).getD (s.get field) := by
  cases c <;> cases field <;> rfl

/-! ## Changes one after another -/

/-- What a field holds behind some changes. -/
inductive Holds (s : Sources) (field : Field) : List Change → field.Value → Prop
  | unwritten {changes : List Change} (none : ∀ c ∈ changes, c.writes field = none) :
      Holds s field changes (s.get field)
  | written (earlier later : List Change) {c : Change} {value : field.Value}
      (last : c.writes field = some value) (none : ∀ o ∈ later, o.writes field = none) :
      Holds s field (earlier ++ c :: later) value

theorem changeAll_append (s : Sources) (earlier later : List Change) :
    s.changeAll (earlier ++ later) = (s.changeAll earlier).changeAll later := by
  rw [changeAll, changeAll, changeAll, List.foldl_append]

theorem changeAll_cons (s : Sources) (c : Change) (later : List Change) :
    s.changeAll (c :: later) = (s.change c).changeAll later := rfl

theorem get_unwritten (none : ∀ c ∈ changes, c.writes field = none) :
    (s.changeAll changes).get field = s.get field := by
  induction changes generalizing s with
  | nil => rfl
  | cons c later ih =>
    obtain ⟨silent, rest⟩ := List.forall_mem_cons.mp none
    rw [changeAll_cons, ih rest, get_change, silent, Option.getD_none]

theorem get_written (last : c.writes field = some value)
    (none : ∀ o ∈ later, o.writes field = none) :
    (s.changeAll (earlier ++ c :: later)).get field = value := by
  rw [changeAll_append, changeAll_cons, get_unwritten none, get_change, last, Option.getD_some]

/-- Some change is the last one to write a field, or none writes it. -/
theorem exists_holds (s : Sources) (field : Field) (changes : List Change) :
    ∃ value, Holds s field changes value := by
  induction changes with
  | nil => exact ⟨_, .unwritten (by simp)⟩
  | cons c later ih =>
    obtain ⟨value, holds⟩ := ih
    -- The first change counts only if none behind it writes the field.
    cases holds with
    | unwritten none =>
      cases writes : c.writes field with
      | none => exact ⟨_, .unwritten (List.forall_mem_cons.mpr ⟨writes, none⟩)⟩
      | some value => exact ⟨value, .written [] later writes none⟩
    | written earlier later last none => exact ⟨value, .written (c :: earlier) later last none⟩

theorem get_changeAll :
    (s.changeAll changes).get field = value ↔ Holds s field changes value := by
  have sound {value : field.Value} (holds : Holds s field changes value) :
      (s.changeAll changes).get field = value := by
    cases holds with
    | unwritten none => exact get_unwritten none
    | written earlier later last none => exact get_written last none
  constructor
  · rintro rfl
    obtain ⟨value, holds⟩ := exists_holds s field changes
    rwa [sound holds]
  · exact sound

/-- What changes make of a field hangs on that field alone. -/
theorem get_congr (changes : List Change) (same : s.get field = t.get field) :
    (s.changeAll changes).get field = (t.changeAll changes).get field := by
  induction changes generalizing s t with
  | nil => exact same
  | cons c later ih => exact ih (by rw [get_change, get_change, same])

/-- A change counts for no field that it does not write. -/
theorem get_skip (s : Sources) (field : Field) (earlier later : List Change)
    (silent : c.writes field = none) :
    (s.changeAll (earlier ++ c :: later)).get field =
      (s.changeAll (earlier ++ later)).get field := by
  rw [changeAll_append, changeAll_append, changeAll_cons]
  refine get_congr later ?_
  rw [get_change, silent, Option.getD_none]

/-- No field is written by both changes. -/
def Change.Apart (first second : Change) : Prop :=
  ∀ field, first.writes field = none ∨ second.writes field = none

theorem change_comm (s : Sources) (apart : first.Apart second) :
    (s.change first).change second = (s.change second).change first := by
  refine eq_of_get fun field => ?_
  simp only [get_change]
  rcases apart field with silent | silent
  · rw [silent, Option.getD_none, Option.getD_none]
  · rw [silent, Option.getD_none, Option.getD_none]

/-! ## Nothing to look for -/

/-- With no path and no locations there is nothing to resolve, whatever stands anywhere. -/
theorem ofSources_nowhere (regoPath : s.regoPath = none) (jsonPath : s.jsonPath = none)
    (regoLocations : s.regoLocations = []) (jsonLocations : s.jsonLocations = []) (files : Files) :
    Selection.ofSources s files = .ofEngine .builtIn := by
  have rego : s.rego? files = none := by rw [rego?, regoPath, regoLocations]; rfl
  have json : s.json? files = none := by rw [json?, jsonPath, jsonLocations]; rfl
  rw [Selection.ofSources, rego]
  change Selection.withoutRego s files = _
  rw [Selection.withoutRego, json]

/-- Whatever sources are changed and in whatever steps, a field holds what the last step that writes
it has written, or what it held before if no step does. Two steps that write no field in common may
change places, a named path outlasts the end of discovery, and sources that in the end neither name
a path nor list a location leave the built-in matrix in force, whatever the files are. -/
theorem last_change_counts (s : Sources) (changes : List Change) :
    let final := s.changeAll changes
    (∀ field value, final.get field = value ↔ Holds s field changes value) ∧
    (∀ first second later, first.Apart second →
      s.changeAll (changes ++ first :: second :: later) =
        s.changeAll (changes ++ second :: first :: later)) ∧
    (∀ later,
      (s.changeAll (changes ++ .withoutDiscovery :: later)).regoPath =
        (s.changeAll (changes ++ later)).regoPath ∧
      (s.changeAll (changes ++ .withoutDiscovery :: later)).jsonPath =
        (s.changeAll (changes ++ later)).jsonPath) ∧
    (final.regoPath = none → final.jsonPath = none → final.regoLocations = [] →
      final.jsonLocations = [] →
        ∀ files, Selection.ofSources final files = .ofEngine .builtIn) := by
  intro final
  refine ⟨fun field value => get_changeAll, fun first second later apart => ?_, fun later => ?_,
    ofSources_nowhere⟩
  · simp only [changeAll_append, changeAll_cons, change_comm _ apart]
  · exact ⟨get_skip s .regoPath changes later rfl, get_skip s .jsonPath changes later rfl⟩

/-- The path of the environment gives way to the last one that is named. The locations that are
listed before discovery ends are not looked at. -/
theorem last_change_counts_renamed :
    let e : Environment := fun name =>
      if name = Environment.policyRego then some "old.rego" else none
    let renamed : List Change :=
      [.regoPath "first.rego", .withoutDiscovery, .regoPath "last.rego", .query "data.x"]
    let closed : List Change := [.jsonLocations ["policies.json"], .withoutDiscovery]
    ((ofEnvironment e).changeAll renamed).regoPath = some "last.rego" ∧
      ((ofEnvironment e).changeAll renamed).jsonLocations = [] ∧
      ((ofEnvironment e).changeAll renamed).jsonPath = none ∧
      (Change.regoPath "a.rego").Apart .withoutDiscovery ∧
      (ofEnvironment e).changeAll (renamed ++ [.regoPath "a.rego", .withoutDiscovery]) =
        (ofEnvironment e).changeAll (renamed ++ [.withoutDiscovery, .regoPath "a.rego"]) ∧
      (builtInOnly.changeAll closed).regoPath = none ∧
      (builtInOnly.changeAll closed).jsonPath = none ∧
      (builtInOnly.changeAll closed).regoLocations = [] ∧
      (builtInOnly.changeAll closed).jsonLocations = [] ∧
      ∀ files, Selection.ofSources (builtInOnly.changeAll closed) files = .ofEngine .builtIn := by
  intro e renamed closed
  obtain ⟨fields, moves, -, -⟩ := last_change_counts (ofEnvironment e) renamed
  obtain ⟨-, -, -, nowhere⟩ := last_change_counts builtInOnly closed
  have apart : (Change.regoPath "a.rego").Apart .withoutDiscovery := by
    intro field
    cases field with
    | regoPath => exact .inr rfl
    | jsonPath => exact .inr rfl
    | regoLocations => exact .inl rfl
    | jsonLocations => exact .inl rfl
    | query => exact .inr rfl
  refine ⟨(fields .regoPath _).mpr ?_, (fields .jsonLocations _).mpr ?_,
    (fields .jsonPath none).mpr ?_, apart, moves _ _ [] apart, rfl, rfl, rfl, rfl,
    nowhere rfl rfl rfl rfl⟩
  · refine .written [.regoPath "first.rego", .withoutDiscovery] [.query "data.x"]
      (c := .regoPath "last.rego") rfl ?_
    simp [Change.writes]
  · refine .written [.regoPath "first.rego"] [.regoPath "last.rego", .query "data.x"]
      (c := .withoutDiscovery) rfl ?_
    simp [Change.writes]
  · have unset : (ofEnvironment e).get .jsonPath = none := rfl
    rw [← unset]
    refine .unwritten ?_
    simp [renamed, Change.writes]

end Clearance.Policy.Sources
