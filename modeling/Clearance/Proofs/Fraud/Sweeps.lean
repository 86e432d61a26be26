import Clearance.Proofs.Fraud.Survivors

/-! Sweeps only forget early what the next check of a principal would forget anyway. A sweep that no
later check precedes in time can therefore be put anywhere into a run: what the checks find stays.
-/
namespace Clearance.Fraud.Velocity

variable {window : Span} {principal : String} {instant : Instant} {met : List Operation}

/-- Some operation of a run checks the principal. -/
def Checked (principal : String) (run : List Operation) : Prop :=
  ∃ op ∈ run, op.checks principal = true

instance (principal : String) (run : List Operation) : Decidable (Checked principal run) :=
  inferInstanceAs (Decidable (∃ op ∈ run, op.checks principal = true))

def Operation.isCheck : Operation → Bool
  | .check .. => true
  | .sweep _ => false

/-- No check of a run comes before an instant. Its sweeps may. -/
def ChecksNotBefore (instant : Instant) (run : List Operation) : Prop :=
  ∀ op ∈ run, op.isCheck = true → instant ≤ op.now

instance (instant : Instant) (run : List Operation) : Decidable (ChecksNotBefore instant run) :=
  inferInstanceAs (Decidable (∀ op ∈ run, op.isCheck = true → instant ≤ op.now))

/-- What the next check of a principal leaves alive, the sweep would have left alive too. -/
theorem outlasts_sweep (checked : Checked principal met) (notBefore : ChecksNotBefore instant met)
    (entry : Instant) :
    Outlasts window principal (.sweep instant :: met) entry ↔
      Outlasts window principal met entry := by
  rw [outlasts_cons, and_iff_right_iff_imp]
  intro outlasts _
  obtain ⟨op, member, checks⟩ := checked
  have live : op.now - entry < window := outlasts op member (Operation.touches_of_checks checks)
  cases op with
  | check t now =>
    have reached : instant ≤ now := notBefore _ member rfl
    exact Int.lt_of_le_of_lt (Int.sub_le_sub_right reached entry) live
  | sweep now => cases checks

theorem survivors_sweep (window : Span) (earlier : List Operation)
    (checked : Checked principal met) (notBefore : ChecksNotBefore instant met) :
    survivors window principal (earlier ++ .sweep instant :: met) =
      survivors window principal (earlier ++ met) := by
  have silent : survivors window principal (.sweep instant :: met) =
      survivors window principal met := if_neg (by simp [Operation.checks])
  rw [survivors_append, survivors_append, silent]
  simp only [outlasts_sweep checked notBefore]

section Run
variable (window : Span) (threshold : Nat) (earlier : List Operation)

/-- From a principal's next check on, its queue does not show whether there was a sweep. -/
theorem queue_sweep (checked : Checked principal met) (notBefore : ChecksNotBefore instant met) :
    (execute (earlier ++ .sweep instant :: met) (fresh window threshold)).table.queue principal =
      (execute (earlier ++ met) (fresh window threshold)).table.queue principal := by
  rw [fresh_queue, fresh_queue, survivors_sweep window earlier checked notBefore]

/-- An operation behind the sweep answers as it does without it. -/
theorem answer_sweep (op : Operation) (notBefore : ChecksNotBefore instant (met ++ [op])) :
    (execute (earlier ++ .sweep instant :: met) (fresh window threshold)).answer op =
      (execute (earlier ++ met) (fresh window threshold)).answer op := by
  cases op with
  | check t now =>
    have checked : Checked t.principal (met ++ [.check t now]) :=
      ⟨.check t now, by simp, by simp [Operation.checks]⟩
    rw [fresh_answer, fresh_answer, List.append_assoc, List.append_assoc, List.cons_append,
      survivors_sweep window earlier checked notBefore]
  | sweep now => rfl

/-- The induction is on what is still to come; `met` has been run behind the sweep. -/
theorem trace_sweep (later : List Operation) (notBefore : ChecksNotBefore instant (met ++ later)) :
    trace later (execute (earlier ++ .sweep instant :: met) (fresh window threshold)) =
      trace later (execute (earlier ++ met) (fresh window threshold)) := by
  induction later generalizing met with
  | nil => rfl
  | cons op later ih =>
    have onward : ChecksNotBefore instant (met ++ [op]) := fun o member =>
      notBefore o (List.append_subset.mpr (by simp) member)
    have stepped (run : List Operation) :
        (execute run (fresh window threshold)).step op =
          execute (run ++ [op]) (fresh window threshold) := by
      rw [execute_append]; rfl
    rw [trace, trace, answer_sweep window threshold earlier op onward, stepped, stepped,
      List.append_assoc, List.append_assoc, List.cons_append, ih (by simpa using notBefore)]

end Run

/-- An additional sweep shows in a run only as itself: every other operation answers as it did, and
from a principal's next check on just as much is stored for it. -/
theorem sweep_invisible (window : Span) (threshold : Nat) (earlier later : List Operation)
    (instant : Instant) (notBefore : ChecksNotBefore instant later) :
    trace (earlier ++ .sweep instant :: later) (fresh window threshold) =
      trace earlier (fresh window threshold) ++ (.sweep instant, none) ::
        (trace (earlier ++ later) (fresh window threshold)).drop earlier.length ∧
    ∀ principal met upcoming, later = met ++ upcoming → Checked principal met →
      (execute (earlier ++ .sweep instant :: met) (fresh window threshold)).count principal =
        (execute (earlier ++ met) (fresh window threshold)).count principal := by
  constructor
  · have length : (trace earlier (fresh window threshold)).length = earlier.length := by
      rw [← List.length_map Prod.fst, trace_operations]
    have same : trace later (execute (earlier ++ [.sweep instant]) (fresh window threshold)) =
        trace later (execute (earlier ++ []) (fresh window threshold)) :=
      trace_sweep window threshold earlier later notBefore
    rw [execute_append, List.append_nil] at same
    rw [trace_append, trace_append, List.drop_left' length]
    exact congrArg (_ ++ (.sweep instant, none) :: ·) same
  · rintro principal met upcoming rfl checked
    have sooner : ChecksNotBefore instant met := fun op member =>
      notBefore op (List.mem_append_left _ member)
    exact congrArg List.length (queue_sweep window threshold earlier checked sooner)

/-- The sweep at 12 empties the table, a later sweep goes back in time, and bob is checked out of
order. The count of the next check of ann is the same with and without the sweep. -/
theorem sweep_invisible_before_older_sweep :
    let ann : Transaction := ⟨"T", 1, .usd, "ann"⟩
    let bob : Transaction := ⟨"T", 1, .usd, "bob"⟩
    let earlier : List Operation := [.check ann 2, .check bob 0]
    let later : List Operation := [.sweep 3, .check bob 13, .check ann 12, .check ann 30]
    ChecksNotBefore 12 later ∧ Checked "ann" (later.take 3) ∧
    (execute (earlier ++ .sweep 12 :: []) (fresh 10 0)).count "ann" = 0 ∧
    (execute earlier (fresh 10 0)).count "ann" = 1 ∧
    (execute (earlier ++ .sweep 12 :: later.take 3) (fresh 10 0)).count "ann" =
      (execute (earlier ++ later.take 3) (fresh 10 0)).count "ann" ∧
    (trace (earlier ++ .sweep 12 :: later) (fresh 10 0)).drop 3 =
      (trace (earlier ++ later) (fresh 10 0)).drop 2 := by
  intro ann bob earlier later
  have notBefore : ChecksNotBefore 12 later := by decide
  have checked : Checked "ann" (later.take 3) := by decide
  obtain ⟨shown, counted⟩ := sweep_invisible 10 0 earlier later 12 notBefore
  refine ⟨notBefore, checked, by decide, by decide,
    counted "ann" (later.take 3) (later.drop 3) rfl checked, ?_⟩
  rw [shown]
  rfl

end Clearance.Fraud.Velocity
