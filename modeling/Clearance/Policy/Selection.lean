import Clearance.Log
import Clearance.Policy.Engine
import Clearance.Policy.Sources

/-! The choice of the policy in force: a module, else a role document, else the built-in matrix. A
source that fails to load is reported and passed over. -/
namespace Clearance.Policy

/-- A policy in force, and what was reported while it was chosen. -/
structure Selection where
  engine : Engine
  events : List LogEvent

namespace Selection

def regoWarning : LogEvent := ⟨.warn, "Failed to load Rego policy, trying JSON fallback"⟩

def jsonWarning : LogEvent :=
  ⟨.warn, "Failed to load JSON policy, falling back to hardcoded policies"⟩

def notice : Backend → LogEvent
  | .rego => ⟨.info, "Using Rego policy engine"⟩
  | .json => ⟨.info, "Using JSON policy engine"⟩
  | .hardcoded => ⟨.info, "Using hardcoded policy engine"⟩

def ofEngine (engine : Engine) : Selection := ⟨engine, [notice engine.backend]⟩

def after (event : LogEvent) (s : Selection) : Selection := { s with events := event :: s.events }

/-- The role document if it loads, else the built-in matrix. -/
def withoutRego (sources : Sources) (files : Files) : Selection :=
  match sources.json? files with
  | none => ofEngine .builtIn
  | some path =>
    match RoleTable.load files path with
    | .ok table => ofEngine (.table table)
    | .error _ => (ofEngine .builtIn).after jsonWarning

def ofSources (sources : Sources) (files : Files) : Selection :=
  match sources.rego? files with
  | none => withoutRego sources files
  | some path =>
    match Scripted.load files path sources.query with
    | .ok policy => ofEngine (.scripted policy)
    | .error _ => (withoutRego sources files).after regoWarning

end Selection

end Clearance.Policy
