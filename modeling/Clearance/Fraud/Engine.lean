import Clearance.Fraud.Limits
import Clearance.Fraud.Velocity
import Clearance.Log

/-! The engine shows every transaction to every rule, in the order of the rules. Neither a failed
finding nor a rule that cannot run keeps the rules behind it from running. -/
namespace Clearance.Fraud

structure Engine (ρ : Type) where
  rules : List ρ

/-- A screened transaction: what was found, what was reported, and the engine afterwards. -/
structure Step (ρ : Type) where
  screening : Screening
  events : List LogEvent
  engine : Engine ρ

namespace Engine

variable {ρ : Type} [Rule ρ]

def withRule (engine : Engine ρ) (rule : ρ) : Engine ρ := ⟨engine.rules ++ [rule]⟩

def ruleNames (engine : Engine ρ) : List String := engine.rules.map Rule.name

/-- A rule that could not run counts as failed, under the name that it has afterwards. -/
def findingOf (rule : ρ) : Except Failure Finding → Finding
  | .ok finding => finding
  | .error failure => .fail (Rule.name rule) failure.message

def eventOf : Except Failure Finding → LogEvent
  | .ok finding =>
    if finding.passed then ⟨.debug, "Fraud rule passed"⟩
    else ⟨.warn, "Fraud rule flagged transaction"⟩
  | .error _ => ⟨.error, "Fraud rule errored"⟩

def check (engine : Engine ρ) (now : Instant) (t : Transaction) : Step ρ :=
  let answers := engine.rules.map fun rule => Rule.check rule now t
  { screening := .ofFindings (answers.map fun (answer, next) => findingOf next answer)
    events := answers.map fun (answer, _) => eventOf answer
    engine := ⟨answers.map fun (_, next) => next⟩ }

end Engine

/-! ## Built-in rules -/

/-- The built-in rules, and rules whose answer never changes. A velocity rule may have a clock of
its own that stands still. -/
inductive StandardRule where
  | amount (limit : Int64)
  | velocity (rule : Velocity) (stoppedAt : Option Instant)
  | constant (name : String) (answer : Except Failure Finding)

namespace StandardRule

def name : StandardRule → String
  | .amount _ => amountRuleName
  | .velocity _ _ => velocityRuleName
  | .constant name _ => name

def check (rule : StandardRule) (now : Instant) (t : Transaction) :
    Except Failure Finding × StandardRule :=
  match rule with
  | .amount limit => (.ok (checkAmount limit t), rule)
  | .velocity v stoppedAt =>
    let (finding, next) := v.check t.principal (stoppedAt.getD now)
    (.ok finding, .velocity next stoppedAt)
  | .constant _ answer => (answer, rule)

instance : Rule StandardRule := ⟨name, check⟩

def stopped (instant : Instant) : StandardRule → StandardRule
  | .velocity v _ => .velocity v (some instant)
  | rule => rule

end StandardRule

/-- The amount rule, then the velocity rule. -/
def Engine.ofLimits (limits : Limits) : Except SpanError (Engine StandardRule) :=
  limits.window.map fun window =>
    ⟨[.amount limits.amountLimit, .velocity (.fresh window limits.threshold.toNat) none]⟩

end Clearance.Fraud
