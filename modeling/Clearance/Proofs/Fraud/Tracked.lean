import Mathlib.Algebra.Order.Group.Int
import Mathlib.Algebra.Order.Group.MinMax
import Mathlib.Data.Set.Card
import Clearance.Proofs.Fraud.Window

/-! Whom the velocity rule tracks. A sweep looks at every queue and may forget a principal; a check
looks at one queue and forgets nobody. What the table looks like under a positive window, and under
any other one, is said once, in `WellKept`. -/
namespace Clearance.Fraud

/-! ## Entries of the table -/

section Entries

variable {queues : Queues} {table : Table} {entry : String × List Instant} {principal : String}

theorem Queues.mem_put {queue : List Instant} (member : entry ∈ queues.put principal queue) :
    entry = (principal, queue) ∨ entry ∈ queues := by
  induction queues with
  | nil => exact .inl (List.mem_singleton.mp member)
  | cons first rest ih =>
    rw [put] at member
    split at member
    · rcases List.mem_cons.mp member with same | member
      · exact .inl same
      · exact .inr (List.mem_cons_of_mem _ member)
    · rcases List.mem_cons.mp member with same | member
      · exact .inr (same ▸ List.mem_cons_self)
      · exact (ih member).imp_right (List.mem_cons_of_mem _)

theorem Queues.mem_queue (stored : queues.queue principal ≠ []) :
    (principal, queues.queue principal) ∈ queues := by
  induction queues with
  | nil => exact absurd rfl stored
  | cons first rest ih =>
    obtain ⟨other, kept⟩ := first
    rw [queue_cons] at stored ⊢
    split
    · next same => exact same ▸ List.mem_cons_self
    · next apart =>
      rw [if_neg apart] at stored
      exact List.mem_cons_of_mem _ (ih stored)

theorem Queues.queue_of_mem (distinct : (queues.map Prod.fst).Nodup) (member : entry ∈ queues) :
    queues.queue entry.1 = entry.2 := by
  induction queues with
  | nil => cases member
  | cons first rest ih =>
    obtain ⟨absent, restDistinct⟩ := List.nodup_cons.mp distinct
    rw [← Prod.eta first, queue_cons]
    rcases List.mem_cons.mp member with rfl | member
    · exact if_pos rfl
    · have apart : first.1 ≠ entry.1 := fun same =>
        absent (List.mem_map.mpr ⟨entry, member, same.symm⟩)
      rw [if_neg apart, ih restDistinct member]

/-- A queue with something in it is one of the table's. -/
theorem Table.mem_queue (stored : table.queue principal ≠ []) :
    (principal, table.queue principal) ∈ table.entries :=
  Queues.mem_queue stored

theorem Table.queue_of_mem (member : entry ∈ table.entries) : table.queue entry.1 = entry.2 :=
  Queues.queue_of_mem table.distinct member

/-- What pruning leaves of a table: of each queue what is live, if anything is. -/
theorem Table.mem_prune {isLive : Instant → Bool} : entry ∈ (table.prune isLive).entries ↔
    entry.2 ≠ [] ∧ ∃ kept, (entry.1, kept) ∈ table.entries ∧ entry.2 = kept.filter isLive := by
  obtain ⟨principal, queue⟩ := entry
  simp only [prune, Queues.prune, List.mem_filter, List.mem_map, Prod.mk.injEq,
    Bool.not_eq_true', List.isEmpty_eq_false_iff]
  constructor
  · rintro ⟨⟨⟨_, kept⟩, member, rfl, rfl⟩, stored⟩
    exact ⟨stored, kept, member, rfl⟩
  · rintro ⟨stored, kept, member, rfl⟩
    exact ⟨⟨(principal, kept), member, rfl, rfl⟩, stored⟩

theorem Queues.prune_prune (queues : Queues) (first second : Instant → Bool) :
    (queues.prune first).prune second = queues.prune fun t => first t && second t := by
  induction queues with
  | nil => rfl
  | cons entry rest ih =>
    obtain ⟨principal, kept⟩ := entry
    have pruned : kept.filter (fun t => first t && second t) =
        (kept.filter first).filter second := by
      rw [List.filter_filter]
      exact List.filter_congr fun t _ => Bool.and_comm _ _
    rw [prune_cons, prune_cons, pruned]
    -- A queue that is dropped at first has nothing left to be found afterwards.
    by_cases gone : kept.filter first = []
    · rw [if_pos gone, gone, List.filter_nil, if_pos rfl, ih]
    · rw [if_neg gone, prune_cons, ih]

theorem Table.prune_prune (table : Table) (first second : Instant → Bool) :
    (table.prune first).prune second = table.prune fun t => first t && second t :=
  Table.ext (table.entries.prune_prune first second)

theorem Table.prune_size (table : Table) (isLive : Instant → Bool) :
    (table.prune isLive).size ≤ table.size := by
  simpa [size, prune] using (table.entries.prune_sublist isLive).length_le

end Entries

namespace Velocity

variable {v : Velocity} {window : Span} {principal : String} {entry : String × List Instant}

/-- The principals that stand in the table, perhaps with nothing stored for them. -/
def principals (v : Velocity) : Finset String := (v.table.entries.map Prod.fst).toFinset

theorem mem_principals : principal ∈ v.principals ↔ ∃ e ∈ v.table.entries, e.1 = principal := by
  simp only [principals, List.mem_toFinset, List.mem_map]

theorem card_principals : v.principals.card = v.tracked := by
  rw [principals, List.toFinset_card_of_nodup v.table.distinct, List.length_map, tracked,
    Table.size]

/-- A check puts one queue into the table, its own. -/
theorem mem_check {now : Instant} (member : entry ∈ (v.check principal now).2.table.entries) :
    entry = (principal, (v.check principal now).2.table.queue principal) ∨
      entry ∈ v.table.entries := by
  rw [check, record, Table.queue_put_same]
  exact Queues.mem_put member

/-! ## One sweep behind another -/

section Sweeps

variable (v : Velocity) (a b : Instant)

theorem isLive_max (entry : Instant) :
    v.isLive (max a b) entry = (v.isLive a entry && v.isLive b entry) := by
  rw [isLive, isLive, isLive, ← Bool.decide_and, decide_eq_decide, ← max_sub_sub_right, max_lt_iff]

theorem prune_prune : (v.table.prune (v.isLive a)).prune (v.isLive b) =
    v.table.prune (v.isLive (max a b)) := by
  rw [Table.prune_prune, funext (v.isLive_max a b)]

theorem sweep_sweep : ((v.sweep a).2.sweep b).2 = (v.sweep (max a b)).2 :=
  congrArg (fun kept => { v with table := kept }) (v.prune_prune a b)

theorem sweep_removed :
    (v.sweep a).1 + ((v.sweep a).2.sweep b).1 = (v.sweep (max a b)).1 := by
  let kept := v.table.prune (v.isLive a)
  have first : (v.sweep a).1 = v.table.size - kept.size := rfl
  have second : ((v.sweep a).2.sweep b).1 = kept.size - (kept.prune (v.isLive b)).size := rfl
  have whole : (v.sweep (max a b)).1 =
      v.table.size - (v.table.prune (v.isLive (max a b))).size := rfl
  have shorter : kept.size ≤ v.table.size := v.table.prune_size _
  have shortest := kept.prune_size (v.isLive b)
  rw [prune_prune] at second shortest
  omega

theorem sweep_again : (v.sweep a).2.sweep a = (0, (v.sweep a).2) := by
  have state : ((v.sweep a).2.sweep a).2 = (v.sweep a).2 := by rw [sweep_sweep, max_self]
  have removed := v.sweep_removed a a
  rw [max_self] at removed
  exact Prod.ext (Nat.add_left_cancel removed) state

/-- The number that a sweep tells is that of the principals that it forgets. -/
theorem sweep_forgets : (v.sweep a).1 = (v.principals \ (v.sweep a).2.principals).card := by
  have fewer : (v.sweep a).2.principals ⊆ v.principals := by
    intro principal member
    obtain ⟨e, left, rfl⟩ := mem_principals.mp member
    obtain ⟨-, kept, before, -⟩ := Table.mem_prune.mp left
    exact mem_principals.mpr ⟨_, before, rfl⟩
  rw [Finset.card_sdiff_of_subset fewer, card_principals, card_principals]
  rfl

/-- A sweep is reported exactly if it forgets a principal. -/
theorem sweep_reported : v.sweepEvents a ≠ [] ↔
    ∃ principal ∈ v.principals, principal ∉ (v.sweep a).2.principals := by
  have reported : v.sweepEvents a ≠ [] ↔ 0 < (v.sweep a).1 := by
    rw [sweepEvents]
    split <;> simp_all
  rw [reported, sweep_forgets, Finset.card_pos]
  exact ⟨fun ⟨principal, gone⟩ => ⟨principal, Finset.mem_sdiff.mp gone⟩,
    fun ⟨principal, gone⟩ => ⟨principal, Finset.mem_sdiff.mpr gone⟩⟩

end Sweeps

/-- Sweeps of a table that a run has left. Two of them, in either order of their instants, come to
the one at the later instant. What is live stays where it was, and whoever has nothing live is
forgotten and counted. -/
theorem sweeps_compose (window : Span) (threshold : Nat) (run : List Operation) (a b : Instant) :
    let v := execute run (fresh window threshold)
    let next := (v.sweep a).2
    ((next.sweep b).2 = (v.sweep (max a b)).2 ∧
      (v.sweep a).1 + (next.sweep b).1 = (v.sweep (max a b)).1) ∧
    (next.sweep b).2 = ((v.sweep b).2.sweep a).2 ∧
    next.sweep a = (0, next) ∧
    (∀ e ∈ next.table.entries, e.2 ≠ [] ∧ ∀ t ∈ e.2, a - t < window) ∧
    (∀ principal, next.table.queue principal =
      (v.table.queue principal).filter (a - · < window)) ∧
    (v.sweep a).1 = (v.principals \ next.principals).card := by
  intro v next
  have same : v.window = window := execute_window run _
  have live (t : Instant) : v.isLive a t = decide (a - t < window) := by rw [isLive, same]
  refine ⟨⟨v.sweep_sweep a b, v.sweep_removed a b⟩, ?_, v.sweep_again a, fun e member => ?_,
    fun principal => ?_, v.sweep_forgets a⟩
  · rw [v.sweep_sweep, v.sweep_sweep, max_comm]
  · obtain ⟨stored, kept, -, pruned⟩ := Table.mem_prune.mp member
    refine ⟨stored, fun t entry => ?_⟩
    rw [pruned] at entry
    simpa [live] using (List.mem_filter.mp entry).2
  · rw [← funext live]
    exact v.table.queue_prune principal (v.isLive a)

/-- The second sweep goes back in time. Under the negative window nothing is stored for ann or bob,
who are tracked all the same until the first sweep. -/
theorem sweeps_compose_back_in_time :
    let ann : Transaction := ⟨"T", 1, .usd, "ann"⟩
    let bob : Transaction := ⟨"T", 1, .usd, "bob"⟩
    let run : List Operation := [.check ann 0, .check bob 20, .check bob 15]
    let v := execute run (fresh 10 1)
    let w := execute run (fresh (-3) 1)
    ("bob", [20, 15]) ∈ (v.sweep 22).2.table.entries ∧ 22 - 20 < (10 : Int) ∧
      (v.sweep 22).1 = 1 ∧ ((v.sweep 22).2.sweep 12).2 = (v.sweep 22).2 ∧
      w.tracked = 2 ∧ (w.sweep 5).1 = 2 ∧ ((w.sweep 5).2.sweep 5).1 = 0 := by
  intro ann bob run v w
  have left : ("bob", [20, 15]) ∈ (v.sweep 22).2.table.entries := by decide
  obtain ⟨⟨later, -⟩, -, -, live, -, forgotten⟩ := sweeps_compose 10 1 run 22 12
  obtain ⟨-, -, again, -, -, drained⟩ := sweeps_compose (-3) 1 run 5 5
  refine ⟨left, (live _ left).2 20 (by simp), ?_, later, by decide, ?_, congrArg Prod.fst again⟩
  · rw [forgotten]
    decide
  · rw [drained]
    decide

/-! ## The table in a run -/

/-- Under a positive window no queue is empty. Under any other one every queue is, and stands in the
table all the same until the next sweep. -/
structure WellKept (v : Velocity) : Prop where
  stored : 0 < v.window → ∀ e ∈ v.table.entries, e.2 ≠ []
  drained : v.window ≤ 0 → ∀ e ∈ v.table.entries, e.2 = []

theorem fresh_wellKept (window : Span) (threshold : Nat) : (fresh window threshold).WellKept where
  stored _ _ member := absurd member List.not_mem_nil
  drained _ _ member := absurd member List.not_mem_nil

theorem WellKept.queue_drained (kept : v.WellKept) (shut : v.window ≤ 0) (principal : String) :
    v.table.queue principal = [] := by
  by_contra stored
  exact stored (kept.drained shut _ (Table.mem_queue stored))

/-- A check under a window that is not positive finds even itself too old. -/
theorem WellKept.check_drained (kept : v.WellKept) (shut : v.window ≤ 0) (principal : String)
    (now : Instant) : (v.check principal now).2.table.queue principal = [] := by
  have dead : v.isLive now now = false := by simpa [isLive] using shut
  simp [check, record, kept.queue_drained shut, dead]

theorem WellKept.step (kept : v.WellKept) (op : Operation) : (v.step op).WellKept := by
  refine ⟨fun positive e member => ?_, fun shut e member => ?_⟩
  · rw [step_window] at positive
    cases op with
    | check t now =>
      rcases mem_check member with rfl | member
      · exact List.ne_nil_of_length_pos (v.check_counts t.principal now positive)
      · exact kept.stored positive e member
    | sweep now => exact (Table.mem_prune.mp member).1
  · rw [step_window] at shut
    cases op with
    | check t now =>
      rcases mem_check member with rfl | member
      · exact kept.check_drained shut t.principal now
      · exact kept.drained shut e member
    | sweep now =>
      obtain ⟨-, before, member, pruned⟩ := Table.mem_prune.mp member
      have empty : before = [] := kept.drained shut _ member
      rw [pruned, empty, List.filter_nil]

theorem execute_wellKept (run : List Operation) (kept : v.WellKept) :
    (execute run v).WellKept := by
  induction run generalizing v with
  | nil => exact kept
  | cons op later ih => exact ih (kept.step op)

theorem WellKept.tracks_iff (kept : v.WellKept) (positive : 0 < v.window) (principal : String) :
    principal ∈ v.principals ↔ 0 < v.count principal := by
  rw [mem_principals, count, List.length_pos_iff]
  constructor
  · rintro ⟨e, member, rfl⟩
    rw [Table.queue_of_mem member]
    exact kept.stored positive e member
  · intro stored
    exact ⟨_, Table.mem_queue stored, rfl⟩

/-- What survives of a principal's checks stays in their order. -/
theorem survivors_sublist (window : Span) (principal : String) (run : List Operation) :
    (survivors window principal run).Sublist
      ((run.filter (·.checks principal)).map Operation.now) := by
  induction run with
  | nil => exact .slnil
  | cons op later ih =>
    rw [survivors, List.filter_cons]
    by_cases checked : op.checks principal = true
    · rw [if_pos checked, List.map_cons]
      split
      · exact ih.cons_cons op.now
      · exact ih.cons op.now
    · rw [if_neg checked, if_neg fun both => checked both.1]
      exact ih

theorem survivors_ordered {run : List Operation}
    (ordered : run.Pairwise fun a b => a.now ≤ b.now) :
    (survivors window principal run).Pairwise (· ≤ ·) := by
  have checks := ordered.filter fun op => op.checks principal
  exact (List.pairwise_map.mpr checks).sublist (survivors_sublist window principal run)

/-- What holds of the table behind every run, whatever its times are. Under a positive window those
principals are tracked for whom something is stored, and a check is the newest of its entries. Under
any other window nothing is ever stored or flagged. A run whose times do not decrease keeps its
queues in order. -/
theorem run_keeps_table (window : Span) (threshold : Nat) (run : List Operation) :
    let v := execute run (fresh window threshold)
    (0 < window →
      (∀ principal, principal ∈ v.principals ↔ 0 < v.count principal) ∧
      (v.tracked : ℕ∞) = {principal | 0 < v.count principal}.encard ∧
      ∀ principal now,
        ((v.check principal now).2.table.queue principal).getLast? = some now ∧
        1 ≤ (v.check principal now).2.count principal) ∧
    (window ≤ 0 →
      (∀ e ∈ v.table.entries, e.2 = []) ∧
      ∀ principal now, (v.check principal now).2.count principal = 0 ∧
        (v.check principal now).1.passed = true) ∧
    ((run.Pairwise fun a b => a.now ≤ b.now) →
      ∀ e ∈ v.table.entries, e.2.Pairwise (· ≤ ·)) := by
  intro v
  have kept : v.WellKept := execute_wellKept run (fresh_wellKept window threshold)
  have same : v.window = window := execute_window run _
  refine ⟨fun positive => ?_, fun shut => ?_, fun ordered e member => ?_⟩
  · rw [← same] at positive
    have tracks := kept.tracks_iff positive
    refine ⟨tracks, ?_, fun principal now =>
      ⟨v.check_newest principal now positive, v.check_counts principal now positive⟩⟩
    have counted : {principal | 0 < v.count principal} = (v.principals : Set String) :=
      Set.ext fun principal => (tracks principal).symm
    rw [counted, Set.encard_coe_eq_coe_finsetCard, card_principals]
  · rw [← same] at shut
    refine ⟨kept.drained shut, fun principal now => ?_⟩
    have none : (v.check principal now).2.count principal = 0 :=
      congrArg List.length (kept.check_drained shut principal now)
    refine ⟨none, Bool.eq_true_of_not_eq_false fun failed => ?_⟩
    have high : v.threshold < (v.check principal now).2.count principal :=
      (judge_failed v _).mp failed
    rw [none] at high
    exact Nat.not_lt_zero _ high
  · -- Whatever the window is, a queue holds survivors in the order of their checks.
    rw [← Table.queue_of_mem member, fresh_queue]
    exact survivors_ordered ordered

/-- The last check of ann reads a clock that was set back behind the sweep, which has forgotten bob.
The same run under a window of no length, and its checks in the order of their times. -/
theorem run_keeps_table_out_of_order :
    let ann : Transaction := ⟨"T", 1, .usd, "ann"⟩
    let bob : Transaction := ⟨"T", 1, .usd, "bob"⟩
    let run : List Operation := [.check bob 0, .check ann 5, .sweep 12, .check ann 3]
    let orderly : List Operation := [.check bob 0, .check ann 3, .check ann 5, .sweep 12]
    (0 < (10 : Span) ∧ "bob" ∉ (execute run (fresh 10 1)).principals ∧
      (execute run (fresh 10 1)).table.queue "ann" = [5, 3] ∧
      (execute run (fresh 10 1)).tracked = 1) ∧
    ((0 : Span) ≤ 0 ∧ (∃ queue, ("ann", queue) ∈ (execute run (fresh 0 0)).table.entries ∧ queue = []) ∧
      ((execute run (fresh 0 0)).check "ann" 4).1.passed = true) ∧
    (orderly.Pairwise fun a b => a.now ≤ b.now) ∧
      ("ann", [3, 5]) ∈ (execute orderly (fresh 10 1)).table.entries ∧
      ([3, 5] : List Instant).Pairwise (· ≤ ·) := by
  intro ann bob run orderly
  have positive : 0 < (10 : Span) := by decide
  have shut : (0 : Span) ≤ 0 := Int.le_refl 0
  obtain ⟨tracks, -, -⟩ := (run_keeps_table 10 1 run).1 positive
  obtain ⟨drained, passes⟩ := (run_keeps_table 0 0 run).2.1 shut
  have empty : ("ann", []) ∈ (execute run (fresh 0 0)).table.entries := by decide
  have ordered : orderly.Pairwise fun a b => a.now ≤ b.now := by decide
  have member : ("ann", [3, 5]) ∈ (execute orderly (fresh 10 1)).table.entries := by decide
  have bobless : (execute run (fresh 10 1)).count "bob" = 0 := by decide
  refine ⟨⟨positive, fun tracked => ?_, by decide, by decide⟩,
    ⟨shut, ⟨[], empty, drained _ empty⟩, (passes "ann" 4).2⟩, ordered, member,
    (run_keeps_table 10 1 orderly).2.2 ordered _ member⟩
  exact absurd ((tracks "bob").mp tracked) (by rw [bobless]; exact Nat.lt_irrefl 0)

end Velocity

end Clearance.Fraud
