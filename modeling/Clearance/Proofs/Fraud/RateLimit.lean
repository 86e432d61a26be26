import Mathlib.Data.List.Induction
import Clearance.Proofs.Fraud.Survivors

/-! Runs whose times do not decrease. The survivors of such a run are the checks of the last window,
so the number of checks that pass in any window, wherever it lies, is bounded by the threshold. -/
namespace Clearance.Fraud.Velocity

/-- A check of a principal less than a window before an instant. -/
def isRecent (window : Span) (principal : String) (instant : Instant) (op : Operation) : Bool :=
  op.checks principal && instant - op.now < window

variable {window : Span} {principal : String} {instant after upTo : Instant} {op last : Operation}
  {run : List Operation} {entry : Operation × Option Finding}

theorem isRecent_iff : isRecent window principal instant op = true ↔
    op.checks principal = true ∧ instant - op.now < window := by
  simp [isRecent]

/-- An operation that no other one is later than decides alone what outlasts a run. -/
theorem outlasts_latest (member : last ∈ run) (touches : last.touches principal = true)
    (latest : ∀ op ∈ run, op.now ≤ last.now) (entry : Instant) :
    Outlasts window principal run entry ↔ last.now - entry < window := by
  constructor
  · intro outlasts
    exact outlasts last member touches
  · intro live op member _
    exact Int.lt_of_le_of_lt (Int.sub_le_sub_right (latest op member) _) live

theorem survivors_cons_latest {later : List Operation} (member : last ∈ op :: later)
    (touches : last.touches principal = true) (latest : ∀ o ∈ op :: later, o.now ≤ last.now) :
    survivors window principal (op :: later) =
      if isRecent window principal last.now op = true then
        op.now :: survivors window principal later
      else survivors window principal later := by
  have kept : (op.checks principal = true ∧ Outlasts window principal (op :: later) op.now) ↔
      isRecent window principal last.now op = true := by
    rw [isRecent_iff, outlasts_latest member touches latest]
  exact if_congr kept rfl rfl

/-- An operation that is not earlier than any before it leaves exactly the checks that are recent
for it. -/
theorem survivors_latest (touches : last.touches principal = true)
    (latest : ∀ op ∈ run ++ [last], op.now ≤ last.now) :
    survivors window principal (run ++ [last]) =
      ((run ++ [last]).filter (isRecent window principal last.now)).map Operation.now := by
  induction run with
  | nil =>
    rw [List.nil_append, survivors_cons_latest (by simp) touches latest, List.filter_cons]
    split <;> rfl
  | cons op later ih =>
    have rest := ih fun o member => latest o (List.mem_cons_of_mem _ member)
    rw [List.cons_append] at latest ⊢
    rw [survivors_cons_latest (by simp) touches latest, rest, List.filter_cons]
    split <;> rfl

/-- A check of a principal that passed, after one instant and not after another one. -/
def passedWithin (principal : String) (after upTo : Instant) (entry : Operation × Option Finding) :
    Bool :=
  entry.1.checks principal && after < entry.1.now && entry.1.now ≤ upTo &&
    entry.2.any (·.passed)

theorem passedWithin_iff : passedWithin principal after upTo entry = true ↔
    entry.1.checks principal = true ∧ after < entry.1.now ∧ entry.1.now ≤ upTo ∧
      ∃ finding, entry.2 = some finding ∧ finding.passed = true := by
  simp [passedWithin, and_assoc, Option.any_eq_true]

/-- In a window that does not end before the last operation, all checks that passed survive. -/
theorem passed_le_survivors (touches : last.touches principal = true)
    (latest : ∀ op ∈ run ++ [last], op.now ≤ last.now) (reached : last.now ≤ upTo) (v : Velocity) :
    (trace (run ++ [last]) v).countP (passedWithin principal (upTo - window) upTo) ≤
      (survivors window principal (run ++ [last])).length := by
  rw [survivors_latest touches latest, List.length_map, ← List.countP_eq_length_filter]
  calc (trace (run ++ [last]) v).countP (passedWithin principal (upTo - window) upTo)
      ≤ (trace (run ++ [last]) v).countP (isRecent window principal last.now ∘ Prod.fst) := by
        apply List.countP_mono_left
        intro entry _ passed
        obtain ⟨checked, after, -, -⟩ := passedWithin_iff.mp passed
        have bound : last.now < entry.1.now + window :=
          Int.lt_of_le_of_lt reached (Int.lt_add_of_sub_right_lt after)
        exact isRecent_iff.mpr ⟨checked, Int.sub_left_lt_of_lt_add bound⟩
    _ = (run ++ [last]).countP (isRecent window principal last.now) := by
        rw [← List.countP_map, trace_operations]

/-- At most as many checks of a principal pass as the threshold allows, in every half-open interval
of the window's length and not only in those that end with a check. -/
theorem passed_in_any_window (window : Span) (threshold : Nat) (run : List Operation)
    (ordered : run.Pairwise fun a b => a.now ≤ b.now) (principal : String) (instant : Instant) :
    (trace run (fresh window threshold)).countP
      (passedWithin principal (instant - window) instant) ≤ threshold := by
  -- The last check of the window that passed has counted all others of the window.
  induction run using List.reverseRecOn with
  | nil => simp [trace]
  | append_singleton run last ih =>
    obtain ⟨earlier, -, before⟩ := List.pairwise_append.mp ordered
    have latest : ∀ op ∈ run ++ [last], op.now ≤ last.now := by
      intro op member
      rcases List.mem_append.mp member with member | member
      · exact before op member last (List.mem_singleton_self last)
      · exact Int.le_of_eq (congrArg _ (List.mem_singleton.mp member))
    have answered := trace_append run [last] (fresh window threshold)
    by_cases counts : passedWithin principal (instant - window) instant
        (last, (execute run (fresh window threshold)).answer last) = true
    · obtain ⟨checked, -, reached, finding, found, passed⟩ := passedWithin_iff.mp counts
      have touches := Operation.touches_of_checks checked
      calc (trace (run ++ [last]) (fresh window threshold)).countP
            (passedWithin principal (instant - window) instant)
          ≤ (survivors window principal (run ++ [last])).length :=
            passed_le_survivors touches latest reached _
        _ ≤ threshold := survivors_of_passed checked found passed
    · rw [answered, List.countP_append]
      simpa [trace, counts] using ih earlier

/-- The second check fails and is counted all the same, so that the check at 4 fails too. -/
theorem passed_in_any_window_after_failures :
    let ann : Transaction := ⟨"T", 1, .usd, "ann"⟩
    let run : List Operation :=
      [.check ann 0, .check ann 0, .sweep 3, .check ann 4, .check ann 14]
    (run.Pairwise fun a b => a.now ≤ b.now) ∧
      (trace run (fresh 10 1)).countP (passedWithin "ann" (12 - 10) 12) ≤ 1 := by
  intro ann run
  have ordered : run.Pairwise fun a b => a.now ≤ b.now := by decide
  exact ⟨ordered, passed_in_any_window 10 1 run ordered "ann" 12⟩

end Clearance.Fraud.Velocity
