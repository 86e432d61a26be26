import Clearance.Files
import Clearance.Fraud.Transaction

/-! A rule is a state machine: it looks at a transaction at an instant, answers with a finding or
with a failure, and goes on in a new state. -/
namespace Clearance.Fraud

/-- Nanoseconds since a fixed origin. -/
abbrev Instant := Int

/-- Nanoseconds. A span may be negative. -/
abbrev Span := Int

def nanosPerSecond : Int := 1000000000

def Span.ofSeconds (seconds : Int) : Span := seconds * nanosPerSecond

/-- Whole seconds, cut towards zero. -/
def Span.seconds (span : Span) : Int := span.tdiv nanosPerSecond

/-- Why a rule could not run, or why thresholds could not be loaded. -/
inductive Failure where
  | rule (name text : String)
  | config (text : String)
  | unreadable (reason : ReadFailure)
  | malformed (error : Json.Error)
  deriving DecidableEq, Repr

namespace Failure

def message : Failure → String
  | .rule name text => "Rule " ++ name ++ " failed: " ++ text
  | .config text => "Configuration error: " ++ text
  | .unreadable reason => "IO error: " ++ reason.message
  | .malformed error => "Serialization error: " ++ error.message

/-- The messages from the failure down to its root. -/
def chain (f : Failure) : List String :=
  match f with
  | .unreadable reason => [f.message, reason.message]
  | .malformed error => [f.message, error.message]
  | _ => [f.message]

end Failure

class Rule (ρ : Type) where
  name : ρ → String
  check : ρ → Instant → Transaction → Except Failure Finding × ρ

/-! ## The amount rule -/

def amountRuleName : String := "amount_threshold"

/-- Amounts strictly above the limit fail. -/
def checkAmount (limit : Int64) (t : Transaction) : Finding :=
  if limit < t.amount then
    .fail amountRuleName
      ("Amount " ++ toString t.amount.toInt ++ " exceeds limit " ++ toString limit.toInt)
  else .pass amountRuleName

end Clearance.Fraud
