import Clearance.Policy.Selection

/-! Which policy comes into force. A source is resolved to one path, and only that path is tried:
what cannot be loaded from there is reported and passed over, and nothing else takes its place. -/
namespace Clearance

namespace Files

/-- A readable file with a text. -/
def Holds (files : Files) (path text : String) : Prop :=
  ∃ bytes, files path = .file bytes ∧ String.fromUTF8? bytes = some text

/-- Something is at a path, readable or not. -/
def Stands (files : Files) (path : String) : Prop := ∀ reason, files path ≠ .absent reason

variable {files : Files} {path text : String}

theorem pathExists_iff : files.pathExists path = true ↔ files.Stands path := by
  unfold pathExists Stands
  split <;> simp_all

theorem readText_iff : files.readText path = .ok text ↔ files.Holds path text := by
  unfold readText Holds
  split
  · next bytes _ => cases decoded : String.fromUTF8? bytes <;> simp_all
  all_goals simp_all

theorem holds_text (written : files path = .file text.toUTF8) : files.Holds path text :=
  ⟨_, written, dif_pos (String.isValidUTF8 _)⟩

end Files

namespace Policy

variable {files : Files}

/-! ## Resolution -/

/-- A path that is named outright counts even if nothing is there; else the first location at which
something is. -/
inductive Resolved (files : Files) : Option String → List String → Option String → Prop where
  | named (path : String) (locations : List String) : Resolved files (some path) locations (some path)
  | found {earlier later : List String} {path : String} (before : ∀ p ∈ earlier, ¬ files.Stands p)
      (stands : files.Stands path) : Resolved files none (earlier ++ path :: later) (some path)
  | nowhere {locations : List String} (absent : ∀ p ∈ locations, ¬ files.Stands p) :
      Resolved files none locations none

theorem resolve_iff {named : Option String} {locations : List String} {source : Option String} :
    Sources.resolve files named locations = source ↔ Resolved files named locations source := by
  constructor
  · rintro rfl
    cases named with
    | some path => exact .named path locations
    | none =>
      have first : Sources.resolve files none locations = locations.find? files.pathExists := rfl
      rw [first]
      cases found : locations.find? files.pathExists with
      | none =>
        rw [List.find?_eq_none] at found
        exact .nowhere fun p member stands => found p member (Files.pathExists_iff.mpr stands)
      | some path =>
        obtain ⟨stands, earlier, later, rfl, before⟩ := List.find?_eq_some_iff_append.mp found
        refine .found (fun p member there => ?_) (Files.pathExists_iff.mp stands)
        have absent := before p member
        rw [Files.pathExists_iff.mpr there] at absent
        cases absent
  · intro resolved
    cases resolved with
    | named path => rfl
    | @found earlier later path before stands =>
      refine List.find?_eq_some_iff_append.mpr
        ⟨Files.pathExists_iff.mpr stands, earlier, later, rfl, fun p member => ?_⟩
      simpa [← Files.pathExists_iff] using before p member
    | nowhere absent =>
      exact List.find?_eq_none.mpr fun p member => mt Files.pathExists_iff.mp (absent p member)

/-! ## Loading -/

/-- A resolved source is a file with the text of a module. -/
def OffersModule (files : Files) (source : Option String) (path : String) (m : Rego.Module) : Prop :=
  source = some path ∧ ∃ text, files.Holds path text ∧ Rego.Module.ofText? text = some m

/-- A resolved source is a file with the text of a role document. -/
def OffersTable (files : Files) (source : Option String) (table : RoleTable) : Prop :=
  ∃ path text, source = some path ∧ files.Holds path text ∧ RoleTable.ofText text = .ok table

/-- Two steps of which the first has its failures renamed. -/
theorem mapError_bind_eq_ok {first : Except ε α} {rename : ε → δ} {next : α → Except δ β} {b : β} :
    (first.mapError rename).bind next = .ok b ↔ ∃ a, first = .ok a ∧ next a = .ok b := by
  cases first with
  | error e =>
    constructor
    · intro failed
      cases failed
    · rintro ⟨a, failed, -⟩
      cases failed
  | ok a =>
    constructor
    · exact fun done => ⟨a, rfl, done⟩
    · rintro ⟨_, ⟨rfl⟩, done⟩
      exact done

variable {path query : String}

theorem Scripted.load_iff {policy : Scripted} : Scripted.load files path query = .ok policy ↔
    ∃ m, OffersModule files (some path) path m ∧ policy = ⟨path, m, query⟩ := by
  have loaded : Scripted.load files path query = .ok policy ↔
      ∃ text, files.readText path = .ok text ∧ Scripted.ofText path text query = .ok policy :=
    mapError_bind_eq_ok
  have made (text : String) : Scripted.ofText path text query = .ok policy ↔
      ∃ m, Rego.Module.ofText? text = some m ∧ policy = ⟨path, m, query⟩ := by
    rw [Scripted.ofText]
    cases Rego.Module.ofText? text <;> simp [eq_comm]
  simp only [loaded, made, Files.readText_iff, OffersModule, true_and]
  constructor
  · rintro ⟨text, holds, m, parsed, same⟩
    exact ⟨m, ⟨text, holds, parsed⟩, same⟩
  · rintro ⟨m, ⟨text, holds, parsed⟩, same⟩
    exact ⟨text, holds, m, parsed, same⟩

theorem RoleTable.load_iff {table : RoleTable} :
    RoleTable.load files path = .ok table ↔ OffersTable files (some path) table := by
  have loaded : RoleTable.load files path = .ok table ↔
      ∃ text, files.readText path = .ok text ∧ RoleTable.ofText text = .ok table :=
    mapError_bind_eq_ok
  simp only [loaded, Files.readText_iff, OffersTable]
  constructor
  · rintro ⟨text, holds, read⟩
    exact ⟨path, text, rfl, holds, read⟩
  · rintro ⟨_, text, ⟨rfl⟩, holds, read⟩
    exact ⟨text, holds, read⟩

namespace Selection

variable {s : Sources}

/-! ## The chain -/

variable {table : RoleTable} {m : Rego.Module}

theorem withoutRego_listed (offers : OffersTable files (s.json? files) table) :
    withoutRego s files = ofEngine (.table table) := by
  obtain ⟨path, text, resolved, holds, read⟩ := offers
  have loaded := RoleTable.load_iff.mpr ⟨path, text, rfl, holds, read⟩
  simp [withoutRego, resolved, loaded]

theorem withoutRego_unlisted (unlisted : ¬ ∃ table, OffersTable files (s.json? files) table) :
    withoutRego s files =
      if s.json? files = none then ofEngine .builtIn
      else (ofEngine .builtIn).after jsonWarning := by
  rw [withoutRego]
  cases resolved : s.json? files with
  | none => rfl
  | some path =>
    cases loaded : RoleTable.load files path with
    | ok table => exact absurd ⟨table, resolved ▸ RoleTable.load_iff.mp loaded⟩ unlisted
    | error f => simp [loaded]

theorem ofSources_scripted (offers : OffersModule files (s.rego? files) path m) :
    ofSources s files = ofEngine (.scripted ⟨path, m, s.query⟩) := by
  have resolved : s.rego? files = some path := offers.1
  rw [resolved] at offers
  have loaded : Scripted.load files path s.query = .ok ⟨path, m, s.query⟩ :=
    Scripted.load_iff.mpr ⟨m, offers, rfl⟩
  simp [ofSources, resolved, loaded]

theorem ofSources_unscripted (unscripted : ¬ ∃ path m, OffersModule files (s.rego? files) path m) :
    ofSources s files =
      if s.rego? files = none then withoutRego s files
      else (withoutRego s files).after regoWarning := by
  rw [ofSources]
  cases resolved : s.rego? files with
  | none => rfl
  | some path =>
    cases loaded : Scripted.load files path s.query with
    | ok policy =>
      obtain ⟨m, offers, -⟩ := Scripted.load_iff.mp loaded
      exact absurd ⟨path, m, resolved ▸ offers⟩ unscripted
    | error f => simp [loaded]

/-- A source that could not be loaded changes nothing else. -/
theorem engine_unscripted (unscripted : ¬ ∃ path m, OffersModule files (s.rego? files) path m) :
    (ofSources s files).engine = (withoutRego s files).engine := by
  rw [ofSources_unscripted unscripted]
  split <;> rfl

theorem engine_unlisted (unlisted : ¬ ∃ table, OffersTable files (s.json? files) table) :
    (withoutRego s files).engine = .builtIn := by
  rw [withoutRego_unlisted unlisted]
  split <;> rfl

/-- Without a role document to look for, only a module can be in force. -/
theorem engine_tableless (unlisted : ¬ ∃ table, OffersTable files (s.json? files) table) :
    (ofSources s files).engine =
      (ofSources { s with jsonPath := none, jsonLocations := [] } files).engine := by
  let bare : Sources := { s with jsonPath := none, jsonLocations := [] }
  by_cases scripted : ∃ path m, OffersModule files (s.rego? files) path m
  · obtain ⟨path, m, offers⟩ := scripted
    rw [ofSources_scripted offers, ofSources_scripted (s := bare) offers]
  · rw [engine_unscripted scripted, engine_unscripted (s := bare) scripted,
      engine_unlisted unlisted]
    rfl

/-! ## What is reported -/

/-- The event that tells which policy is in force. -/
inductive Announces : Backend → LogEvent → Prop
  | rego : Announces .rego ⟨.info, "Using Rego policy engine"⟩
  | json : Announces .json ⟨.info, "Using JSON policy engine"⟩
  | hardcoded : Announces .hardcoded ⟨.info, "Using hardcoded policy engine"⟩

theorem notice_announces (backend : Backend) : Announces backend (notice backend) := by
  cases backend with
  | rego => exact .rego
  | json => exact .json
  | hardcoded => exact .hardcoded

/-- The warnings, in their order, and the notice behind them. -/
theorem events_warnings (s : Sources) (files : Files) :
    let scripted := ∃ path m, OffersModule files (s.rego? files) path m
    let listed := ∃ table, OffersTable files (s.json? files) table
    ∃ warnings, (ofSources s files).events =
        warnings ++ [notice (ofSources s files).engine.backend] ∧
      warnings.Sublist [regoWarning, jsonWarning] ∧
      (regoWarning ∈ warnings ↔ s.rego? files ≠ none ∧ ¬ scripted) ∧
      (jsonWarning ∈ warnings ↔ ¬ scripted ∧ s.json? files ≠ none ∧ ¬ listed) := by
  intro scripted listed
  have apart : regoWarning ≠ jsonWarning := by decide
  -- The warning of the second half comes first, as the first half may only put its own before it.
  have second : ∃ warnings, (withoutRego s files).events =
        warnings ++ [notice (withoutRego s files).engine.backend] ∧
      warnings.Sublist [jsonWarning] ∧
      (jsonWarning ∈ warnings ↔ s.json? files ≠ none ∧ ¬ listed) := by
    by_cases tabled : listed
    · obtain ⟨table, offers⟩ := id tabled
      rw [withoutRego_listed offers]
      exact ⟨[], rfl, by simp, by simp [tabled]⟩
    · rw [withoutRego_unlisted tabled]
      split
      · next absent => exact ⟨[], rfl, by simp, by simp [absent]⟩
      · next resolved => exact ⟨[jsonWarning], rfl, by simp, by simp [resolved, tabled]⟩
  obtain ⟨warnings, events, sublist, warned⟩ := second
  have silent : regoWarning ∉ warnings := fun member =>
    apart (List.mem_singleton.mp (sublist.subset member))
  by_cases moduled : scripted
  · obtain ⟨path, m, offers⟩ := id moduled
    rw [ofSources_scripted offers]
    exact ⟨[], rfl, by simp, by simp [moduled], by simp [moduled]⟩
  · rw [ofSources_unscripted moduled]
    split
    · next absent =>
      exact ⟨warnings, events, sublist.cons _, by simp [absent, silent], by simp [moduled, warned]⟩
    · next resolved =>
      refine ⟨regoWarning :: warnings, congrArg (regoWarning :: ·) events, sublist.cons_cons _,
        by simp [resolved, moduled], ?_⟩
      simp [moduled, warned, apart.symm]

/-- A module that loads is in force, else a role document that loads, else the built-in matrix.
What is reported is each source that was resolved and could not be loaded, and then the choice. A
source that could not be loaded changes nothing else: it may as well not have been named. -/
theorem selection_meaning (s : Sources) (files : Files) (rego json : Option String)
    (regoResolved : Resolved files s.regoPath s.regoLocations rego)
    (jsonResolved : Resolved files s.jsonPath s.jsonLocations json) :
    let chosen := ofSources s files
    let scripted := ∃ path m, OffersModule files rego path m
    let listed := ∃ table, OffersTable files json table
    let regoLost : LogEvent := ⟨.warn, "Failed to load Rego policy, trying JSON fallback"⟩
    let jsonLost : LogEvent :=
      ⟨.warn, "Failed to load JSON policy, falling back to hardcoded policies"⟩
    ((chosen.engine.backend = .rego ↔ scripted) ∧
      ∀ path m, OffersModule files rego path m →
        chosen.engine = .scripted ⟨path, m, s.query⟩) ∧
    ((chosen.engine.backend = .json ↔ ¬ scripted ∧ listed) ∧
      ∀ table, ¬ scripted → OffersTable files json table → chosen.engine = .table table) ∧
    (chosen.engine.backend = .hardcoded ↔ ¬ scripted ∧ ¬ listed) ∧
    (∃ warnings closing, chosen.events = warnings ++ [closing] ∧
      Announces chosen.engine.backend closing ∧ warnings.Sublist [regoLost, jsonLost] ∧
      (regoLost ∈ warnings ↔ rego ≠ none ∧ ¬ scripted) ∧
      (jsonLost ∈ warnings ↔ ¬ scripted ∧ json ≠ none ∧ ¬ listed)) ∧
    (¬ scripted → chosen.engine =
      (ofSources { s with regoPath := none, regoLocations := [] } files).engine) ∧
    (¬ listed → chosen.engine =
      (ofSources { s with jsonPath := none, jsonLocations := [] } files).engine) := by
  obtain rfl : s.rego? files = rego := resolve_iff.mpr regoResolved
  obtain rfl : s.json? files = json := resolve_iff.mpr jsonResolved
  intro chosen scripted listed regoLost jsonLost
  have module (path : String) (m : Rego.Module) (offers : OffersModule files (s.rego? files) path m) :
      chosen.engine = .scripted ⟨path, m, s.query⟩ :=
    congrArg engine (ofSources_scripted offers)
  have document (table : RoleTable) (unscripted : ¬ scripted)
      (offers : OffersTable files (s.json? files) table) : chosen.engine = .table table :=
    (engine_unscripted unscripted).trans (congrArg engine (withoutRego_listed offers))
  have matrix (unscripted : ¬ scripted) (unlisted : ¬ listed) : chosen.engine = .builtIn :=
    (engine_unscripted unscripted).trans (engine_unlisted unlisted)
  have backends : (chosen.engine.backend = .rego ↔ scripted) ∧
      (chosen.engine.backend = .json ↔ ¬ scripted ∧ listed) ∧
      (chosen.engine.backend = .hardcoded ↔ ¬ scripted ∧ ¬ listed) := by
    by_cases moduled : scripted
    · obtain ⟨path, m, offers⟩ := id moduled
      simp [module path m offers, Engine.backend, moduled]
    · by_cases tabled : listed
      · obtain ⟨table, offers⟩ := id tabled
        simp [document table moduled offers, Engine.backend, moduled, tabled]
      · simp [matrix moduled tabled, Engine.backend, moduled, tabled]
  obtain ⟨warnings, events, warned⟩ := events_warnings s files
  exact ⟨⟨backends.1, module⟩, ⟨backends.2.1, document⟩, backends.2.2,
    ⟨warnings, _, events, notice_announces _, warned⟩, engine_unscripted, engine_tableless⟩

/-- The named module is no text, and a directory stands at the first location of a document that is
there at all. Neither the other module nor the document behind the directory is tried. -/
theorem selection_meaning_after_two_failures :
    let files : Files := fun path =>
      if path = "named.rego" then .file ⟨#[0xFF]⟩
      else if path = "policies.rego" then .file "package warden.authz\n".toUTF8
      else if path = "config/policies.json" then .directory
      else if path = "policies.json" then .file "\x7b\x7d".toUTF8
      else .absent .notFound
    let s : Sources := { Sources.default with regoPath := some "named.rego" }
    Resolved files s.regoPath s.regoLocations (some "named.rego") ∧
      Resolved files s.jsonPath s.jsonLocations (some "config/policies.json") ∧
      (ofSources s files).engine.backend = .hardcoded ∧
      ⟨.warn, "Failed to load Rego policy, trying JSON fallback"⟩ ∈ (ofSources s files).events ∧
      ⟨.warn, "Failed to load JSON policy, falling back to hardcoded policies"⟩ ∈
        (ofSources s files).events ∧
      (ofSources s files).events.getLast? = some ⟨.info, "Using hardcoded policy engine"⟩ := by
  intro files s
  have module : Resolved files s.regoPath s.regoLocations (some "named.rego") := .named _ _
  have document : Resolved files s.jsonPath s.jsonLocations (some "config/policies.json") :=
    resolve_iff.mp (by decide)
  obtain ⟨-, -, matrix, ⟨warnings, closing, events, announced, -, first, second⟩, -⟩ :=
    selection_meaning s files _ _ module document
  have unscripted : ¬ ∃ path m, OffersModule files (some "named.rego") path m := by
    rintro ⟨path, m, named, text, ⟨bytes, file, decoded⟩, -⟩
    obtain rfl := Option.some.inj named
    obtain rfl : ⟨#[0xFF]⟩ = bytes := Entry.file.inj file
    have undecodable : String.fromUTF8? ⟨#[0xFF]⟩ = none := by decide
    rw [undecodable] at decoded
    cases decoded
  have unlisted : ¬ ∃ table, OffersTable files (some "config/policies.json") table := by
    rintro ⟨table, path, text, named, ⟨bytes, file, -⟩, -⟩
    obtain rfl := Option.some.inj named
    cases file
  have chosen := matrix.mpr ⟨unscripted, unlisted⟩
  rw [chosen] at announced
  cases announced
  rw [events]
  exact ⟨module, document, chosen, List.mem_append_left _ (first.mpr ⟨by simp, unscripted⟩),
    List.mem_append_left _ (second.mpr ⟨unscripted, by simp, unlisted⟩), List.getLast?_concat⟩

end Selection

end Policy

end Clearance
