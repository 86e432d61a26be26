import Clearance.App.Exit
import Clearance.Proofs.App.Batch
import Clearance.Proofs.App.Settings
import Clearance.Proofs.Policy.Matrix
import Clearance.Proofs.Policy.Verdict

/-! How a run ends. What hinders a command is said here without regard to what a run computes. A run
that is hindered prints no line and fails; any other run answers, and a refusal that a policy has
decided is an answer. Events are reported in either case, so that an output is as empty as its lines
are only where the log is silent. -/
namespace Clearance

namespace Policy

/-- Only a module fails to decide, and it says that there is no decision. -/
theorem Engine.decide_failed {engine : Engine} {r : Request} {f : Failure}
    (failed : engine.decide r = .error f) :
    (∃ detail, f = .undecided detail) ∧ engine.backend = .rego := by
  cases engine with
  | builtIn => cases failed
  | table t => cases failed
  | scripted p =>
    refine ⟨?_, rfl⟩
    change (p.checkWith .standard r).decision = .error f at failed
    rw [Scripted.checkWith_eq] at failed
    split at failed
    · cases failed
    · obtain rfl := Except.error.inj failed
      exact ⟨_, rfl⟩

end Policy

namespace App

open Policy (Engine)
open Policy.Matrix (May)

/-! ## What hinders a command -/

/-- Why a command has no answer: the policy says that there is no decision, the matrix refuses, or
there is no file of transactions. -/
inductive Task.Hindered (policy : Engine) (files : Files) : Task → Prop
  | undecided {r : Policy.Request} {detail : String}
      (failed : policy.decide r = .error (.undecided detail)) : Hindered policy files (.authorize r)
  | refused {role : Role} {action : Action} {resource : Resource}
      (mayNot : ¬ May action resource role) :
      Hindered policy files (.validate role action resource)
  | unread {path : String} (nothing : ¬ ∃ ts, HoldsBatch files path ts) :
      Hindered policy files (.screenBatch path)

/-- Thresholds are named that cannot be used. -/
def Invocation.Unusable (i : Invocation) (around : Surroundings) : Prop :=
  ∃ path, i.options.LimitsFrom around.environment (some path) ∧
    ¬ ∃ limits, Fraud.Limits.Usable around.files path limits

/-- Why a run fails: its thresholds cannot be used, or the command is hindered. -/
inductive Invocation.Hindered (i : Invocation) (policy : Engine) (around : Surroundings) : Prop
  | limits (unusable : i.Unusable around)
  | task (hindered : i.task.Hindered policy around.files)

/-- The policy in force. -/
def Invocation.policy (i : Invocation) (around : Surroundings) : Engine :=
  (Policy.Selection.ofSources (i.options.sources around.environment) around.files).engine

/-- What a run answers, or why it does not. -/
def Invocation.answer (i : Invocation) (around : Surroundings) : Except Failure Answer := do
  let session ← Session.ofOptions i.options around.environment around.files
  (session.run around.files around.clock (i.task.command around.freshId)).answer

/-! ## Opening -/

/-- A session is opened unless thresholds are named that cannot be used. -/
theorem ofOptions_cases (o : Options) (e : Environment) (files : Files) :
    ((∀ path, o.limitsPath e = some path → ∃ limits, Fraud.Limits.Usable files path limits) ∧
      ∃ limits, Session.ofOptions o e files =
        .ok (.opened (Policy.Selection.ofSources (o.sources e) files).engine limits [])) ∨
    ∃ path cause, o.limitsPath e = some path ∧
      (¬ ∃ limits, Fraud.Limits.Usable files path limits) ∧
      Session.ofOptions o e files = .error (.limits path cause) := by
  have started (limits : Fraud.Limits) (valid : limits.validate = .ok ())
      (found : o.limits e files = .ok limits) : Session.ofOptions o e files =
        .ok (.opened (Policy.Selection.ofSources (o.sources e) files).engine limits []) := by
    rw [Session.ofOptions, found]
    exact Session.start_opened (o.sources e) limits files valid
  cases named : o.limitsPath e with
  | none =>
    have found : o.limits e files = .ok {} := by simp only [Options.limits, named]
    exact .inl ⟨by simp, {}, started {} (by decide) found⟩
  | some path =>
    cases loaded : Fraud.Limits.load files path with
    | ok limits =>
      have holds := Fraud.Limits.load_iff.mp loaded
      have found : o.limits e files = .ok limits := by
        simp only [Options.limits, named, loaded]
        rfl
      obtain ⟨_, _, _, valid⟩ := id holds
      exact .inl ⟨fun _ same => Option.some.inj same ▸ ⟨limits, holds⟩, limits,
        started limits valid found⟩
    | error cause =>
      refine .inr ⟨path, cause, rfl, ?_, ?_⟩
      · rintro ⟨limits, holds⟩
        cases loaded.symm.trans (Fraud.Limits.load_iff.mpr holds)
      · simp only [Session.ofOptions, Options.limits, named, loaded]
        rfl

/-! ## Commands -/

section Commands

variable {t : Task} {s : Session} {files : Files} {clock : Nat → Fraud.Instant} {freshId : String}

end Commands

/-! ## Exits -/

section Runs

variable {i : Invocation} {around : Surroundings}

end Runs

/-! ## Policies -/

section Policies

variable {t : Task} {i : Invocation} {around : Surroundings} {policy other : Engine}

theorem Task.Hindered.moduleless {files : Files} (moduleless : policy.backend ≠ .rego)
    (hindered : t.Hindered policy files) : t.Hindered other files := by
  cases hindered with
  | undecided failed => exact absurd (Engine.decide_failed failed).2 moduleless
  | refused mayNot => exact .refused mayNot
  | unread nothing => exact .unread nothing

/-- Policies that are no modules hinder a run alike, which is not at all. -/
theorem Invocation.Hindered.moduleless (moduleless : policy.backend ≠ .rego)
    (hindered : i.Hindered policy around) : i.Hindered other around := by
  cases hindered with
  | limits unusable => exact .limits unusable
  | task hindered => exact .task (hindered.moduleless moduleless)

end Policies

/-! ## Outputs -/

end App

end Clearance
