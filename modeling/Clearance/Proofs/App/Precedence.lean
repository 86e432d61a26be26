import Clearance.Proofs.App.Exit
import Mathlib.Logic.Function.Basic

/-! Where a session takes its files from. An option goes before the variable that belongs to it, and
that is settled before anything is looked for: what is found at a path decides nothing about which
path it is. Two openings are compared in `ofOptions_congr`, and all else follows from there. -/
namespace Clearance

/-! ## Variables -/

namespace Environment

/-- The variables that name files. -/
def pathNames : List String := [policyRego, policyJson, fraudConfig]

/-- The environment without the variables that name files. -/
def pathless (e : Environment) : Environment := fun name =>
  if name ∈ pathNames then .none else e name

variable {e : Environment} {name other : String} {content : Option String}

theorem setting_congr {f : Environment} (same : e name = f name) :
    e.setting name = f.setting name := by
  rw [setting, setting, same]

theorem setting_pathless (path : name ∈ pathNames) : e.pathless.setting name = .none :=
  setting_unset (if_pos path)

theorem setting_update (different : other ≠ name) :
    setting (Function.update e name content) other = e.setting other :=
  setting_congr (Function.update_of_ne different content e)

end Environment

namespace App

open Environment (pathNames pathless Visible)

/-! ## Options -/

namespace Options

/-- The option that goes before a variable. -/
def before (o : Options) (name : String) : Option String :=
  if name = Environment.policyRego then o.policyRego
  else if name = Environment.policyJson then o.policyJson
  else if name = Environment.fraudConfig then o.fraudConfig
  else none

/-- Options that name outright what the given ones and an environment name together. -/
def Settles (o : Options) (e : Environment) (normal : Options) : Prop :=
  ∀ name ∈ pathNames, Settled (o.before name) (e name) (normal.before name)

/-- What an option and its variable come to. -/
def path? (o : Options) (e : Environment) (name : String) : Option String :=
  o.before name <|> e.setting name

def settled (o : Options) (e : Environment) : Options :=
  ⟨o.path? e Environment.policyRego, o.path? e Environment.policyJson,
    o.path? e Environment.fraudConfig⟩

variable {o : Options} {e : Environment}

theorem settled_before {name : String} (path : name ∈ pathNames) :
    (o.settled e).before name = o.path? e name := by
  simp only [pathNames, List.mem_cons, List.not_mem_nil, or_false] at path
  rcases path with rfl | rfl | rfl <;> rfl

theorem eq_of_before {other : Options}
    (same : ∀ name ∈ pathNames, o.before name = other.before name) : o = other := by
  have rego := same Environment.policyRego (by decide)
  have json := same Environment.policyJson (by decide)
  have fraud := same Environment.fraudConfig (by decide)
  cases o
  cases other
  exact mk.injEq .. ▸ ⟨rego, json, fraud⟩

theorem settles_iff {normal : Options} : o.Settles e normal ↔ normal = o.settled e := by
  constructor
  · intro settles
    refine eq_of_before fun name path => ?_
    rw [settled_before path]
    exact settled_iff.mp (settles name path)
  · rintro rfl name path
    rw [settled_before path]
    exact settled_iff.mpr rfl

end Options

/-! ## Opening -/

section Opening

variable {o p : Options} {e f : Environment}

/-- An opening hangs on what the paths come to, and on the query. -/
theorem ofOptions_congr (paths : ∀ name ∈ pathNames, o.path? e name = p.path? f name)
    (query : e.setting Environment.policyQuery = f.setting Environment.policyQuery)
    (files : Files) : Session.ofOptions o e files = Session.ofOptions p f files := by
  have rego : (o.policyRego <|> e.setting Environment.policyRego) =
      (p.policyRego <|> f.setting Environment.policyRego) :=
    paths Environment.policyRego (by decide)
  have json : (o.policyJson <|> e.setting Environment.policyJson) =
      (p.policyJson <|> f.setting Environment.policyJson) :=
    paths Environment.policyJson (by decide)
  have fraud : o.limitsPath e = p.limitsPath f := paths Environment.fraudConfig (by decide)
  have sources : o.sources e = p.sources f := by
    simp only [Options.sources, Policy.Sources.ofEnvironment, rego, json, query]
  have limits : o.limits e files = p.limits f files := by
    rw [Options.limits, Options.limits, fraud]
  rw [Session.ofOptions, Session.ofOptions, sources, limits]

theorem ofOptions_settled (o : Options) (e : Environment) (files : Files) :
    Session.ofOptions o e files = Session.ofOptions (o.settled e) e.pathless files := by
  refine ofOptions_congr (fun name path => ?_) ?_ files
  · change o.path? e name = ((o.settled e).before name <|> e.pathless.setting name)
    rw [Options.settled_before path, Environment.setting_pathless path]
    simp
  · exact Environment.setting_congr (if_neg (by decide)).symm

/-- A session is opened as by options that name outright what the given ones and the environment
name together, in the environment without the variables that name files; there is one way to name
it. The policy is chosen from the paths so named, and only thresholds that are named can be in the
way. So a variable does not matter behind its option, whatever the files hold, and a blank variable
is as good as none. -/
theorem opening_settled (o : Options) (e : Environment) :
    (∃! normal, o.Settles e normal) ∧
    (∀ normal, o.Settles e normal → ∀ files,
      Session.ofOptions o e files = Session.ofOptions normal e.pathless files ∧
      (∀ s, Session.ofOptions o e files = .ok s →
        s.policy = (Policy.Selection.ofSources
          { Policy.Sources.default with
            regoPath := normal.policyRego
            jsonPath := normal.policyJson
            query := (e.setting Environment.policyQuery).getD Policy.Scripted.defaultQuery }
          files).engine) ∧
      ∀ f, Session.ofOptions o e files = .error f →
        ∃ path cause, normal.fraudConfig = some path ∧ f = .limits path cause) ∧
    (∀ name content, o.before name ≠ none → ∀ files,
      Session.ofOptions o (Function.update e name content) files = Session.ofOptions o e files) ∧
    ∀ name value, ¬ Visible value → ∀ files,
      Session.ofOptions o (Function.update e name (some value)) files =
        Session.ofOptions o (Function.update e name none) files := by
  refine ⟨⟨o.settled e, Options.settles_iff.mpr rfl, fun other => Options.settles_iff.mp⟩,
    fun normal settles files => ?_, fun name content given => ?_, fun name value blank => ?_⟩
  · obtain rfl := Options.settles_iff.mp settles
    refine ⟨ofOptions_settled o e files, fun s opened => ?_, fun f failed => ?_⟩
    · rcases ofOptions_cases o e files with ⟨-, limits, opens⟩ | ⟨path, cause, -, -, fails⟩
      · obtain rfl := Except.ok.inj (opens.symm.trans opened)
        rfl
      · cases fails.symm.trans opened
    · rcases ofOptions_cases o e files with ⟨-, limits, opens⟩ | ⟨path, cause, named, -, fails⟩
      · cases opens.symm.trans failed
      · exact ⟨path, cause, named, Except.error.inj (failed.symm.trans fails)⟩
  · refine ofOptions_congr (fun path member => ?_) (Environment.setting_update ?_)
    · by_cases same : path = name
      · obtain ⟨option, before⟩ := Option.ne_none_iff_exists'.mp given
        rw [same, Options.path?, Options.path?, before]
        rfl
      · rw [Options.path?, Options.path?, Environment.setting_update same]
    · rintro rfl
      exact given rfl
  · have agree (other : String) :
        Environment.setting (Function.update e name (some value)) other =
          Environment.setting (Function.update e name none) other := by
      by_cases same : other = name
      · subst same
        rw [Environment.setting_blank (Function.update_self ..) blank,
          Environment.setting_unset (Function.update_self ..)]
      · rw [Environment.setting_update same, Environment.setting_update same]
    exact ofOptions_congr (fun path _ => congrArg (o.before path <|> ·) (agree path)) (agree _)

/-- The module that is named by the option is no text. The one that the variable names is not read,
the blank variable names no document, and the thresholds come from the third variable. -/
theorem opening_settled_broken_module :
    let o : Options := { policyRego := some "broken.rego" }
    let e : Environment := fun name =>
      if name = Environment.policyRego then some "shipped.rego"
      else if name = Environment.policyJson then some "\u3000 "
      else if name = Environment.fraudConfig then some "limits.json"
      else none
    let files : Files := fun path =>
      if path = "broken.rego" then .file ⟨#[0xFF]⟩
      else if path = "shipped.rego" then .file "package warden.authz\n".toUTF8
      else if path = "limits.json" then .file "\x7b\"velocity_threshold\":1\x7d".toUTF8
      else .absent .notFound
    let normal : Options := ⟨some "broken.rego", none, some "limits.json"⟩
    o.Settles e normal ∧
      Session.ofOptions o e files = Session.ofOptions normal e.pathless files ∧
      Session.ofOptions o (Function.update e Environment.policyRego none) files =
        Session.ofOptions o e files ∧
      ∃ s, Session.ofOptions o e files = .ok s ∧ s.policy.backend = .hardcoded := by
  intro o e files normal
  have settles : o.Settles e normal := by
    intro name path
    simp only [pathNames, List.mem_cons, List.not_mem_nil, or_false] at path
    rcases path with rfl | rfl | rfl
    · exact .given "broken.rego" (some "shipped.rego")
    · exact .blank (Environment.allBlank_iff.mp (by decide))
    · exact .named ⟨'l', by decide, by decide⟩
  obtain ⟨-, opens, overridden, -⟩ := opening_settled o e
  obtain ⟨same, -⟩ := opens normal settles files
  refine ⟨settles, same, overridden _ none (by decide) files, ?_⟩
  rw [same]
  have backend : (Session.ofOptions normal e.pathless files).toOption.map (·.policy.backend) =
      some .hardcoded := by decide +kernel
  cases opened : Session.ofOptions normal e.pathless files with
  | error f =>
    rw [opened] at backend
    cases backend
  | ok s =>
    rw [opened] at backend
    exact ⟨s, rfl, Option.some.inj backend⟩

end Opening

end App

end Clearance
