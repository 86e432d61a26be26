import Clearance.Policy.Matrix
import Clearance.Policy.RoleTable
import Clearance.Policy.Scripted

/-! A policy in force, whatever it comes from. Only a module can fail to decide. -/
namespace Clearance.Policy

inductive Engine where
  | builtIn
  | table (t : RoleTable)
  | scripted (p : Scripted)

namespace Engine

def backend : Engine → Backend
  | .builtIn => .hardcoded
  | .table _ => .json
  | .scripted _ => .rego

def check : Engine → Request → Ruling
  | .builtIn, r => ⟨.ok (BuiltIn.decide r), [⟨.debug, "Hardcoded policy decision"⟩]⟩
  | .table t, r => ⟨.ok (t.decide r), [⟨.debug, "JSON policy decision"⟩]⟩
  | .scripted p, r => p.check r

def decide (engine : Engine) (r : Request) : Except Failure Decision := (engine.check r).decision

end Engine

end Clearance.Policy
