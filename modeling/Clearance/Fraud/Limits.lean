import Clearance.Fraud.Rule

/-! The thresholds of the built-in rules. Each has a default, so that a document names only what it
changes. -/
namespace Clearance.Fraud

structure Limits where
  amountLimit : Int64 := 1000000
  windowSeconds : UInt64 := 3600
  threshold : UInt32 := 5
  deriving DecidableEq, Repr

/-- The greatest number of seconds that a span may last, in either direction. -/
def greatestSpanSeconds : Int := 9223372036854775

/-- A span that is too long to be counted. -/
inductive SpanError where
  | outOfBounds
  deriving DecidableEq, Repr

def SpanError.message : SpanError → String
  | .outOfBounds => "TimeDelta::seconds out of bounds"

def Span.ofSeconds? (seconds : Int) : Except SpanError Span :=
  if seconds.natAbs ≤ greatestSpanSeconds then .ok (Span.ofSeconds seconds) else .error .outOfBounds

namespace Limits

/-- The window of the velocity rule. The seconds are taken as a signed number of the same width. -/
def window (l : Limits) : Except SpanError Span := Span.ofSeconds? l.windowSeconds.toInt64.toInt

/-- Thresholds can be used if the window is positive and can be counted. -/
def validate (l : Limits) : Except Failure Unit :=
  if l.windowSeconds = 0 then .error (.config "velocity_window_secs must be positive")
  else if greatestSpanSeconds < l.windowSeconds.toNat then
    .error (.config
      ("velocity_window_secs " ++ toString l.windowSeconds.toNat ++ " is out of range"))
  else .ok ()

/-! ## The document -/

open Json (Value RecordShape)

structure Draft where
  amountLimit : Option Int64 := none
  windowSeconds : Option UInt64 := none
  threshold : Option UInt32 := none

def Draft.finish (d : Draft) : Limits :=
  let default : Limits := {}
  ⟨d.amountLimit.getD default.amountLimit, d.windowSeconds.getD default.windowSeconds,
    d.threshold.getD default.threshold⟩

def shape : RecordShape Draft Limits where
  kind := "FraudConfig"
  fields := [
    { name := "amount_limit", isSet := (·.amountLimit.isSome), required := false
      fill := fun d => Json.int64.map fun x => { d with amountLimit := some x } },
    { name := "velocity_window_secs", isSet := (·.windowSeconds.isSome), required := false
      fill := fun d => Json.uint64.map fun x => { d with windowSeconds := some x } },
    { name := "velocity_threshold", isSet := (·.threshold.isSome), required := false
      fill := fun d => Json.uint32.map fun x => { d with threshold := some x } }]
  blank := {}
  finish := fun d => .ok d.finish

def json (l : Limits) : Value :=
  .object [("amount_limit", .ofInt l.amountLimit.toInt),
    ("velocity_window_secs", .ofInt l.windowSeconds.toNat),
    ("velocity_threshold", .ofInt l.threshold.toNat)]

/-- Thresholds from a text, not yet validated. -/
def ofText (text : String) : Except Json.Error Limits := Json.decode shape.reader text

/-- Thresholds from a file. -/
def load (files : Files) (path : String) : Except Failure Limits := do
  let text ← (files.readText path).mapError .unreadable
  let limits ← (ofText text).mapError .malformed
  limits.validate
  return limits

end Limits

end Clearance.Fraud
