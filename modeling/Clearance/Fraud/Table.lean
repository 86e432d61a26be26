import Clearance.Fraud.Rule

/-! The table of the velocity rule: for each principal the times of its checks, in the order of the
checks. -/
namespace Clearance.Fraud

/-- Principals with their queues, in the order in which they came. -/
abbrev Queues := List (String × List Instant)

namespace Queues

def queue (queues : Queues) (principal : String) : List Instant :=
  (queues.lookup principal).getD []

/-- Replaces a principal's queue; a principal that is not tracked yet comes last. -/
def put : Queues → String → List Instant → Queues
  | [], principal, queue => [(principal, queue)]
  | (other, kept) :: rest, principal, queue =>
    if other = principal then (principal, queue) :: rest
    else (other, kept) :: put rest principal queue

/-- Keeps of each queue what is live, and the principals for whom something is left. -/
def prune (queues : Queues) (isLive : Instant → Bool) : Queues :=
  (queues.map fun (p, queue) => (p, queue.filter isLive)).filter fun (_, queue) => ! queue.isEmpty

theorem put_principals (queues : Queues) (principal : String) (queue : List Instant) :
    (queues.put principal queue).map Prod.fst =
      if principal ∈ queues.map Prod.fst then queues.map Prod.fst
      else queues.map Prod.fst ++ [principal] := by
  induction queues with
  | nil => simp [put]
  | cons entry rest ih =>
    by_cases same : entry.1 = principal
    · simp [put, same]
    · simp only [put, same, if_false, List.map_cons, ih, List.mem_cons, Ne.symm same, false_or]
      split <;> rfl

theorem put_distinct (queues : Queues) (principal : String) (queue : List Instant)
    (distinct : (queues.map Prod.fst).Nodup) :
    ((queues.put principal queue).map Prod.fst).Nodup := by
  rw [put_principals]
  split
  · exact distinct
  · next absent =>
    refine List.nodup_append.mpr ⟨distinct, by simp, ?_⟩
    rintro other tracked last member rfl
    exact absent (List.mem_singleton.mp member ▸ tracked)

theorem prune_sublist (queues : Queues) (isLive : Instant → Bool) :
    ((queues.prune isLive).map Prod.fst).Sublist (queues.map Prod.fst) := by
  have kept := (List.filter_sublist (p := fun (e : String × List Instant) => ! e.2.isEmpty)
    (l := queues.map fun (p, queue) => (p, queue.filter isLive))).map Prod.fst
  simpa [prune, Function.comp_def] using kept

end Queues

/-- The tracked principals with their queues. No principal stands in it twice: otherwise a sweep
that drops a principal's first queue would bring another one to light. -/
@[ext] structure Table where
  entries : Queues
  distinct : (entries.map Prod.fst).Nodup
  deriving DecidableEq, Repr

namespace Table

def empty : Table := ⟨[], List.nodup_nil⟩

def queue (table : Table) (principal : String) : List Instant := table.entries.queue principal

def put (table : Table) (principal : String) (queue : List Instant) : Table :=
  ⟨table.entries.put principal queue, table.entries.put_distinct principal queue table.distinct⟩

def prune (table : Table) (isLive : Instant → Bool) : Table :=
  ⟨table.entries.prune isLive, (table.entries.prune_sublist isLive).nodup table.distinct⟩

/-- The number of tracked principals. -/
def size (table : Table) : Nat := table.entries.length

end Table

end Clearance.Fraud
