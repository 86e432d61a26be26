import Clearance.Fraud.Velocity

/-! Runs of the velocity rule. Checks and sweeps come in any order and at any times. What a step
does to the queue of one principal is said once, in `step_queue`; everything about runs is derived
from that. -/
namespace Clearance.Fraud

/-! ## The table -/

namespace Queues

theorem queue_cons (other principal : String) (kept : List Instant) (rest : Queues) :
    queue ((other, kept) :: rest) principal =
      if other = principal then kept else queue rest principal := by
  by_cases same : other = principal
  · subst same; simp [queue]
  · have apart : (principal == other) = false := by simp [Ne.symm same]
    simp [queue, List.lookup_cons, apart, same]

/-- A principal without an entry has an empty queue. -/
theorem queue_absent (queues : Queues) (principal : String)
    (absent : principal ∉ queues.map Prod.fst) : queues.queue principal = [] := by
  induction queues with
  | nil => rfl
  | cons entry rest ih =>
    simp only [List.map_cons, List.mem_cons, not_or] at absent
    rw [← Prod.eta entry, queue_cons, if_neg (Ne.symm absent.1), ih absent.2]

theorem queue_put (queues : Queues) (principal other : String) (queue : List Instant) :
    (queues.put principal queue).queue other =
      if principal = other then queue else queues.queue other := by
  induction queues with
  | nil => simp [put, queue_cons]
  | cons entry rest ih =>
    obtain ⟨first, kept⟩ := entry
    by_cases same : first = principal
    · subst same
      simp only [put, if_true, queue_cons]
      split <;> rfl
    · simp only [put, same, if_false, queue_cons, ih]
      split
      · next here => rw [if_neg fun there => same (here.trans there.symm)]
      · rfl

theorem prune_cons (isLive : Instant → Bool) (principal : String) (kept : List Instant)
    (rest : Queues) : prune ((principal, kept) :: rest) isLive =
      if kept.filter isLive = [] then rest.prune isLive
      else (principal, kept.filter isLive) :: rest.prune isLive := by
  simp only [prune, List.map_cons, List.filter_cons]
  split <;> simp_all

theorem queue_prune (queues : Queues) (isLive : Instant → Bool)
    (distinct : (queues.map Prod.fst).Nodup) (principal : String) :
    (queues.prune isLive).queue principal = (queues.queue principal).filter isLive := by
  induction queues with
  | nil => rfl
  | cons entry rest ih =>
    obtain ⟨other, kept⟩ := entry
    obtain ⟨absent, restDistinct⟩ := List.nodup_cons.mp distinct
    have tail := ih restDistinct
    rw [prune_cons, queue_cons]
    by_cases same : other = principal
    · subst same
      have gone : Queues.queue rest other = [] := queue_absent rest other absent
      split
      · next empty => simp [tail, gone, empty]
      · simp [queue_cons]
    · split <;> simp [queue_cons, same, tail]

end Queues

namespace Table

variable (table : Table) (principal : String)

@[simp] theorem queue_empty : empty.queue principal = [] := rfl

@[simp] theorem queue_put_same (queue : List Instant) :
    (table.put principal queue).queue principal = queue :=
  (table.entries.queue_put principal principal queue).trans (if_pos rfl)

@[simp] theorem queue_put_other {other : String} (queue : List Instant)
    (apart : principal ≠ other) : (table.put principal queue).queue other = table.queue other :=
  (table.entries.queue_put principal other queue).trans (if_neg apart)

@[simp] theorem queue_prune (isLive : Instant → Bool) :
    (table.prune isLive).queue principal = (table.queue principal).filter isLive :=
  table.entries.queue_prune isLive table.distinct principal

end Table

namespace Velocity

@[simp] theorem sweep_table (v : Velocity) (now : Instant) :
    (v.sweep now).2.table = v.table.prune (v.isLive now) := rfl

/-! ## Operations -/

/-- A use of the rule. -/
inductive Operation where
  | check (t : Transaction) (now : Instant)
  | sweep (now : Instant)

namespace Operation

def now : Operation → Instant
  | .check _ now => now
  | .sweep now => now

def checks (principal : String) : Operation → Bool
  | .check t _ => t.principal == principal
  | .sweep _ => false

/-- A sweep touches everyone. -/
def touches (principal : String) : Operation → Bool
  | .check t _ => t.principal == principal
  | .sweep _ => true

theorem touches_of_checks {principal : String} {op : Operation}
    (checked : op.checks principal = true) : op.touches principal = true := by
  cases op with
  | check t now => exact checked
  | sweep now => cases checked

end Operation

def step (v : Velocity) : Operation → Velocity
  | .check t now => (v.check t.principal now).2
  | .sweep now => (v.sweep now).2

/-- What a check finds. A sweep finds nothing. -/
def answer (v : Velocity) : Operation → Option Finding
  | .check t now => some (v.check t.principal now).1
  | .sweep _ => none

@[simp] theorem step_window (v : Velocity) (op : Operation) : (v.step op).window = v.window := by
  cases op <;> rfl

@[simp] theorem step_threshold (v : Velocity) (op : Operation) :
    (v.step op).threshold = v.threshold := by
  cases op <;> rfl

/-- What one operation does to one principal's queue. -/
theorem step_queue (v : Velocity) (op : Operation) (principal : String) :
    (v.step op).table.queue principal =
      if op.touches principal then
        (v.table.queue principal ++ if op.checks principal then [op.now] else []).filter
          (v.isLive op.now)
      else v.table.queue principal := by
  cases op with
  | check t now =>
    by_cases same : t.principal = principal
    · subst same
      simp [step, check, record, Operation.touches, Operation.checks, Operation.now]
    · simp [step, check, record, Operation.touches, same]
  | sweep now =>
    simp [step, Operation.touches, Operation.checks, Operation.now]

/-- A check judges the queue that it leaves behind. -/
theorem answer_check (v : Velocity) (t : Transaction) (now : Instant) :
    v.answer (.check t now) = some (v.judge ((v.step (.check t now)).count t.principal)) := rfl

/-! ## Runs -/

def execute : List Operation → Velocity → Velocity
  | [], v => v
  | op :: later, v => execute later (v.step op)

/-- The operations of a run with what they found. -/
def trace : List Operation → Velocity → List (Operation × Option Finding)
  | [], _ => []
  | op :: later, v => (op, v.answer op) :: trace later (v.step op)

@[simp] theorem execute_window (run : List Operation) (v : Velocity) :
    (execute run v).window = v.window := by
  induction run generalizing v with
  | nil => rfl
  | cons op later ih => rw [execute, ih, step_window]

@[simp] theorem execute_threshold (run : List Operation) (v : Velocity) :
    (execute run v).threshold = v.threshold := by
  induction run generalizing v with
  | nil => rfl
  | cons op later ih => rw [execute, ih, step_threshold]

theorem execute_append (earlier later : List Operation) (v : Velocity) :
    execute (earlier ++ later) v = execute later (execute earlier v) := by
  induction earlier generalizing v with
  | nil => rfl
  | cons op earlier ih => exact ih _

theorem trace_append (earlier later : List Operation) (v : Velocity) :
    trace (earlier ++ later) v = trace earlier v ++ trace later (execute earlier v) := by
  induction earlier generalizing v with
  | nil => rfl
  | cons op earlier ih => simp [trace, execute, ih]

theorem trace_operations (run : List Operation) (v : Velocity) :
    (trace run v).map Prod.fst = run := by
  induction run generalizing v with
  | nil => rfl
  | cons op later ih => simp [trace, ih]

/-- Each operation answers in the state that the operations before it have left. -/
theorem trace_entry (run : List Operation) (v : Velocity) (i : Nat) (op : Operation)
    (present : run[i]? = some op) :
    (trace run v)[i]? = some (op, (execute (run.take i) v).answer op) := by
  induction run generalizing v i with
  | nil => simp at present
  | cons first later ih =>
    cases i with
    | zero => simp_all [trace, execute]
    | succ i => simpa [trace, execute] using ih (v.step first) i (by simpa using present)

end Velocity

end Clearance.Fraud
