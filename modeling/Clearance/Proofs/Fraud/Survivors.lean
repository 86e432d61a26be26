import Clearance.Proofs.Fraud.Run

/-! The queues that a run leaves behind, in closed form. Pruning is repeated and destructive, so an
entry is there at the end exactly if no operation that looked at it found it too old. -/
namespace Clearance.Fraud.Velocity

/-- Every operation of a run that touches the principal finds the entry live. -/
def Outlasts (window : Span) (principal : String) (run : List Operation) (entry : Instant) : Prop :=
  ∀ op ∈ run, op.touches principal = true → op.now - entry < window

instance (window : Span) (principal : String) (run : List Operation) (entry : Instant) :
    Decidable (Outlasts window principal run entry) :=
  inferInstanceAs (Decidable (∀ op ∈ run, op.touches principal = true → op.now - entry < window))

/-- The times of a principal's checks, in order, that outlast the run from their own check on. -/
def survivors (window : Span) (principal : String) : List Operation → List Instant
  | [] => []
  | op :: later =>
    if op.checks principal = true ∧ Outlasts window principal (op :: later) op.now then
      op.now :: survivors window principal later
    else survivors window principal later

variable {window : Span} {principal : String} {entry : Instant} {op : Operation}
  {earlier later : List Operation}

theorem outlasts_nil : Outlasts window principal [] entry := by simp [Outlasts]

theorem outlasts_cons : Outlasts window principal (op :: later) entry ↔
    (op.touches principal = true → op.now - entry < window) ∧
      Outlasts window principal later entry := by
  simp [Outlasts]

theorem outlasts_untouched (untouched : op.touches principal = false) :
    Outlasts window principal (op :: later) entry ↔ Outlasts window principal later entry := by
  simp [outlasts_cons, untouched]

/-- Pruning by an operation and outlasting the rest is outlasting both. -/
theorem outlasts_touched (v : Velocity) (touched : op.touches principal = true) :
    (decide (Outlasts v.window principal later entry) && v.isLive op.now entry) =
      decide (Outlasts v.window principal (op :: later) entry) := by
  simp [outlasts_cons, touched, isLive, and_comm]

/-- What is stored before a run stays if it outlasts the run; the rest is what the run adds. -/
theorem execute_queue (run : List Operation) (v : Velocity) (principal : String) :
    (execute run v).table.queue principal =
      (v.table.queue principal).filter (Outlasts v.window principal run ·) ++
        survivors v.window principal run := by
  induction run generalizing v with
  | nil =>
    have all : (v.table.queue principal).filter (Outlasts v.window principal [] ·) =
        v.table.queue principal := List.filter_eq_self.mpr (by simp [outlasts_nil])
    simp [execute, survivors, all]
  | cons op later ih =>
    rw [execute, ih, step_queue, step_window]
    cases touched : op.touches principal with
    | false =>
      have unchecked : op.checks principal = false := by
        cases checked : op.checks principal
        · rfl
        · rw [Operation.touches_of_checks checked] at touched; cases touched
      simp [unchecked, survivors, outlasts_untouched touched]
    | true =>
      simp only [if_true, List.filter_filter, List.filter_append, outlasts_touched v touched,
        List.append_assoc, survivors]
      -- What is left is the entry of the operation itself, if it is a check.
      congr 1
      cases checked : op.checks principal with
      | false => simp
      | true => by_cases kept : Outlasts v.window principal (op :: later) op.now <;> simp [kept]

theorem survivors_append (earlier later : List Operation) :
    survivors window principal (earlier ++ later) =
      (survivors window principal earlier).filter (Outlasts window principal later ·) ++
        survivors window principal later := by
  have whole := execute_queue (earlier ++ later) (fresh window 0) principal
  have first := execute_queue earlier (fresh window 0) principal
  have second := execute_queue later (execute earlier (fresh window 0)) principal
  rw [execute_append, second, first] at whole
  simpa [fresh] using whole.symm

/-- Without checks of a principal nothing is stored for it. -/
theorem survivors_unchecked (run : List Operation)
    (unchecked : ∀ op ∈ run, op.checks principal = false) :
    survivors window principal run = [] := by
  induction run with
  | nil => rfl
  | cons op later ih =>
    rw [survivors, if_neg (by simp [unchecked op (by simp)])]
    exact ih fun o member => unchecked o (by simp [member])

theorem fresh_queue (run : List Operation) (window : Span) (threshold : Nat) (principal : String) :
    (execute run (fresh window threshold)).table.queue principal =
      survivors window principal run := by
  simpa [fresh] using execute_queue run (fresh window threshold) principal

/-- A check is judged by the survivors of the run that it ends. -/
theorem fresh_answer (run : List Operation) (window : Span) (threshold : Nat) (t : Transaction)
    (now : Instant) :
    (execute run (fresh window threshold)).answer (.check t now) = some
      ((fresh window threshold).judge
        (survivors window t.principal (run ++ [.check t now])).length) := by
  have state : (execute run (fresh window threshold)).step (.check t now) =
      execute (run ++ [.check t now]) (fresh window threshold) := by
    rw [execute_append]; rfl
  rw [answer_check, state, count, fresh_queue]
  simp [judge, fresh]

theorem judge_rule (v : Velocity) (count : Nat) : (v.judge count).rule = velocityRuleName := by
  unfold judge; split <;> rfl

theorem judge_failed (v : Velocity) (count : Nat) :
    (v.judge count).passed = false ↔ v.threshold < count := by
  by_cases high : v.threshold < count <;> simp [judge, high, Finding.fail, Finding.pass]

theorem judge_message (v : Velocity) (count : Nat) : (v.judge count).message =
    if v.threshold < count then
      some ("Velocity high: " ++ toString count ++ " transactions in " ++
        toString (Span.seconds v.window) ++ "s")
    else none := by
  unfold judge; split <;> rfl

/-- A check that passes has found no more survivors than the threshold allows. -/
theorem survivors_of_passed {run : List Operation} {threshold : Nat} {finding : Finding}
    (checked : op.checks principal = true)
    (found : (execute run (fresh window threshold)).answer op = some finding)
    (passed : finding.passed = true) :
    (survivors window principal (run ++ [op])).length ≤ threshold := by
  cases op with
  | check t now =>
    obtain rfl : t.principal = principal := by simpa [Operation.checks] using checked
    rw [fresh_answer] at found
    obtain rfl := Option.some.inj found
    refine Nat.not_lt.mp fun high => ?_
    have failed := (judge_failed (fresh window threshold) _).mpr high
    exact Bool.noConfusion (passed.symm.trans failed)
  | sweep now => cases checked

/-- A run stores for each principal exactly the survivors of its checks, and every check of the run
is judged by their number. The times of a run need not be ordered, and the window may have any
sign. -/
theorem run_keeps_survivors (window : Span) (threshold : Nat) (run : List Operation) :
    (∀ principal,
      (execute run (fresh window threshold)).table.queue principal =
        survivors window principal run ∧
      (execute run (fresh window threshold)).count principal =
        (survivors window principal run).length ∧
      ((∀ op ∈ run, op.checks principal = false) →
        (execute run (fresh window threshold)).count principal = 0)) ∧
    ∀ i t now, run[i]? = some (.check t now) →
      ∃ finding, (trace run (fresh window threshold))[i]? = some (.check t now, some finding) ∧
        let stored := (survivors window t.principal (run.take (i + 1))).length
        finding.rule = "velocity" ∧
        (finding.passed = false ↔ threshold < stored) ∧
        finding.message =
          if threshold < stored then
            some ("Velocity high: " ++ toString stored ++ " transactions in " ++
              toString (Span.seconds window) ++ "s")
          else none := by
  constructor
  · intro principal
    have stored := fresh_queue run window threshold principal
    refine ⟨stored, congrArg List.length stored, fun unchecked => ?_⟩
    rw [count, stored, survivors_unchecked run unchecked, List.length_nil]
  · intro i t now present
    have upToCheck : run.take i ++ [.check t now] = run.take (i + 1) := by
      rw [List.take_add_one, present]; rfl
    have answered := trace_entry run (fresh window threshold) i _ present
    rw [fresh_answer, upToCheck] at answered
    exact ⟨_, answered, judge_rule _ _, judge_failed _ _, judge_message _ _⟩

/-- A run out of order: the sweep drops the first check, and the last check comes before it in
time. -/
theorem run_keeps_survivors_out_of_order :
    let ann : Transaction := ⟨"T", 1, .usd, "ann"⟩
    let run : List Operation := [.check ann 0, .sweep 11, .check ann 5, .check ann 6]
    (∀ op ∈ run, op.checks "bob" = false) ∧ (execute run (fresh 10 1)).count "bob" = 0 ∧
    run[3]? = some (.check ann 6) ∧
      ∃ finding, (trace run (fresh 10 1))[3]? = some (.check ann 6, some finding) ∧
        finding.passed = false := by
  intro ann run
  obtain ⟨stored, judged⟩ := run_keeps_survivors 10 1 run
  have unchecked : ∀ op ∈ run, op.checks "bob" = false := by decide
  have present : run[3]? = some (.check ann 6) := rfl
  refine ⟨unchecked, (stored "bob").2.2 unchecked, present, ?_⟩
  obtain ⟨finding, answered, -, verdict, -⟩ := judged 3 ann 6 present
  exact ⟨finding, answered, verdict.mpr (by decide)⟩

end Clearance.Fraud.Velocity
