import Clearance.Fraud.Table
import Clearance.Log

/-! The velocity rule counts, for each principal, the checks of a sliding window. Times may come in
any order. -/
namespace Clearance.Fraud

def velocityRuleName : String := "velocity"

structure Velocity where
  window : Span
  threshold : Nat
  table : Table
  deriving DecidableEq, Repr

namespace Velocity

def fresh (window : Span) (threshold : Nat) : Velocity := ⟨window, threshold, .empty⟩

/-- An entry counts as long as less than a whole window has passed since. -/
def isLive (v : Velocity) (now entry : Instant) : Bool := now - entry < v.window

/-- The entries stored for a principal. -/
def count (v : Velocity) (principal : String) : Nat := (v.table.queue principal).length

def tracked (v : Velocity) : Nat := v.table.size

/-- Appends the check itself, then drops what is no longer live. -/
def record (v : Velocity) (principal : String) (now : Instant) : Velocity :=
  { v with
    table := v.table.put principal ((v.table.queue principal ++ [now]).filter (v.isLive now)) }

def judge (v : Velocity) (count : Nat) : Finding :=
  if v.threshold < count then
    .fail velocityRuleName
      ("Velocity high: " ++ toString count ++ " transactions in " ++
        toString (Span.seconds v.window) ++ "s")
  else .pass velocityRuleName

/-- Checks a principal at an instant. The check itself is counted. -/
def check (v : Velocity) (principal : String) (now : Instant) : Finding × Velocity :=
  let next := v.record principal now
  (v.judge (next.count principal), next)

/-- Drops entries that are no longer live, and principals without any; tells how many principals
were dropped. -/
def sweep (v : Velocity) (now : Instant) : Nat × Velocity :=
  let kept := v.table.prune (v.isLive now)
  (v.table.size - kept.size, { v with table := kept })

/-- A sweep is reported if it has dropped a principal. -/
def sweepEvents (v : Velocity) (now : Instant) : List LogEvent :=
  if 0 < (v.sweep now).1 then [⟨.debug, "Evicted idle principals from velocity window"⟩] else []

end Velocity

end Clearance.Fraud
