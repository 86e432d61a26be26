import Mathlib.Data.List.Forall2
import Clearance.Proofs.Fraud.Independence

/-! Stricter thresholds. The same transactions at the same readings of the clock are screened by two
engines, whose tables drift apart as one forgets earlier than the other. A longer window keeps at
every moment whatever a shorter one keeps, so that stricter thresholds flag all that laxer ones
flag. -/
namespace Clearance.Fraud

/-! ## Longer windows -/

namespace Velocity

variable {window longer : Span} {principal : String} {entry : Instant} {run : List Operation}

theorem outlasts_longer (extended : window ≤ longer)
    (outlasts : Outlasts window principal run entry) : Outlasts longer principal run entry :=
  fun op member touches => Int.lt_of_lt_of_le (outlasts op member touches) extended

/-- A longer window leaves all that a shorter one leaves of the same run, in the same order. -/
theorem survivors_longer (extended : window ≤ longer) (principal : String) (run : List Operation) :
    (survivors window principal run).Sublist (survivors longer principal run) := by
  induction run with
  | nil => exact .slnil
  | cons op later ih =>
    by_cases kept : op.checks principal = true ∧ Outlasts window principal (op :: later) op.now
    · rw [survivors, if_pos kept, survivors, if_pos ⟨kept.1, outlasts_longer extended kept.2⟩]
      exact ih.cons_cons _
    · rw [survivors, if_neg kept, survivors]
      split
      · exact ih.cons _
      · exact ih

end Velocity

/-! ## Findings -/

/-- The same rule failed again, if it failed at all. -/
def Finding.Covers (covering covered : Finding) : Prop :=
  covering.rule = covered.rule ∧ (covered.passed = false → covering.passed = false)

theorem checkAmount_covers {limit lower : Int64} (lowered : lower ≤ limit) (t : Transaction) :
    (checkAmount lower t).Covers (checkAmount limit t) := by
  refine ⟨by rw [checkAmount_rule, checkAmount_rule], fun failed => ?_⟩
  rw [checkAmount_failed] at failed ⊢
  exact Int.lt_of_le_of_lt (Int64.le_iff_toInt_le.mp lowered) failed

theorem Velocity.judge_covers {v w : Velocity} {counted more : Nat}
    (lowered : w.threshold ≤ v.threshold) (grown : counted ≤ more) :
    (w.judge more).Covers (v.judge counted) := by
  refine ⟨by rw [judge_rule, judge_rule], fun failed => ?_⟩
  rw [judge_failed] at failed ⊢
  exact Nat.lt_of_le_of_lt lowered (Nat.lt_of_lt_of_le failed grown)

namespace Screening

variable {covering covered : List Finding}

/-- Findings that are covered one by one name no rule as failed that is not named again. -/
theorem failed_covered (covers : List.Forall₂ Finding.Covers covering covered) :
    ((ofFindings covered).failed.map Finding.rule).Sublist
      ((ofFindings covering).failed.map Finding.rule) := by
  induction covers with
  | nil => exact .slnil
  | @cons f g fs gs head tail ih =>
    obtain ⟨same, fails⟩ := head
    simp only [failed, ofFindings] at ih ⊢
    cases passed : g.passed with
    | true =>
      rw [List.filter_cons_of_neg (by simp [passed])]
      exact ih.trans (((List.sublist_cons_self f fs).filter _).map _)
    | false =>
      rw [List.filter_cons_of_pos (by simp [passed]),
        List.filter_cons_of_pos (by simp [fails passed])]
      simpa [same] using ih

theorem risky_covered (covers : List.Forall₂ Finding.Covers covering covered)
    (risky : (ofFindings covered).isRisky = true) : (ofFindings covering).isRisky = true := by
  have flagged (found : List Finding) :
      (ofFindings found).isRisky = true ↔ (ofFindings found).failed ≠ [] := by
    simp [ofFindings, failed]
  rw [flagged] at risky ⊢
  intro cleared
  have fewer := failed_covered covers
  rw [cleared, List.map_nil, List.sublist_nil, List.map_eq_nil_iff] at fewer
  exact risky fewer

end Screening

/-! ## Thresholds -/

/-- The second thresholds are nowhere laxer than the first. -/
structure Limits.Tightened (loose tight : Limits) : Prop where
  amountLimit : tight.amountLimit ≤ loose.amountLimit
  windowSeconds : loose.windowSeconds ≤ tight.windowSeconds
  threshold : tight.threshold ≤ loose.threshold

namespace Engine

/-- One step of both engines, behind the same transactions. -/
theorem behind_covers {loose tight : Limits} (tightened : loose.Tightened tight)
    (history : List Arrival) (a : Arrival) : ∃ covering covered : List Finding,
      List.Forall₂ Finding.Covers covering covered ∧
      ((behind loose.amountLimit (Span.ofSeconds loose.windowSeconds.toNat)
        loose.threshold.toNat history).check a.now a.transaction).screening = .ofFindings covered ∧
      ((behind tight.amountLimit (Span.ofSeconds tight.windowSeconds.toNat)
        tight.threshold.toNat history).check a.now a.transaction).screening = .ofFindings covering := by
  have longer :
      Span.ofSeconds loose.windowSeconds.toNat ≤ Span.ofSeconds tight.windowSeconds.toNat := by
    have seconds := Int.ofNat_le.mpr (UInt64.le_iff_toNat_le.mp tightened.windowSeconds)
    exact Int.mul_le_mul_of_nonneg_right seconds (by decide)
  have counts := (Velocity.survivors_longer longer a.transaction.principal
    ((history ++ [a]).map Arrival.operation)).length_le
  have threshold := UInt32.le_iff_toNat_le.mp tightened.threshold
  refine ⟨_, _, ?_, behind_screening _ _ _ _ _, behind_screening _ _ _ _ _⟩
  exact .cons (checkAmount_covers tightened.amountLimit _)
    (.cons (Velocity.judge_covers threshold counts) .nil)

/-- Stricter thresholds flag at every step what laxer ones flag there: a rule that fails under the
laxer ones fails under the stricter ones too. The readings of the clock need not be ordered. -/
theorem tightening_clears_nothing (loose tight : Limits) (looseValid : loose.validate = .ok ())
    (tightValid : tight.validate = .ok ()) (tightened : loose.Tightened tight)
    (arrivals : List Arrival) : ∃ laxer stricter, Engine.ofLimits loose = .ok laxer ∧
      Engine.ofLimits tight = .ok stricter ∧
      (laxer.screenings arrivals).length = arrivals.length ∧
      (stricter.screenings arrivals).length = arrivals.length ∧
      ∀ (i : Nat) (s t : Screening), (laxer.screenings arrivals)[i]? = some s →
        (stricter.screenings arrivals)[i]? = some t →
          List.Forall₂ Finding.Covers t.findings s.findings ∧
          (s.failed.map Finding.rule).Sublist (t.failed.map Finding.rule) ∧
          (s.isRisky = true → t.isRisky = true) := by
  refine ⟨_, _, ofLimits_of_valid loose looseValid, ofLimits_of_valid tight tightValid,
    screenings_length _ _, screenings_length _ _, fun i s t laxly strictly => ?_⟩
  have inside : i < arrivals.length := by
    simpa using (List.getElem?_eq_some_iff.mp laxly).1
  have present := List.getElem?_eq_getElem inside
  rw [screenings_entry _ _ _ _ present] at laxly strictly
  obtain ⟨covering, covered, covers, loosely, tightly⟩ :=
    behind_covers tightened (arrivals.take i) arrivals[i]
  obtain rfl : Screening.ofFindings covered = s := loosely.symm.trans (Option.some.inj laxly)
  obtain rfl : Screening.ofFindings covering = t := tightly.symm.trans (Option.some.inj strictly)
  exact ⟨covers, Screening.failed_covered covers, Screening.risky_covered covers⟩

/-- The second reading of the clock lies before the first. The window of three hours keeps both
transactions, as does the one of ten seconds. -/
theorem tightening_clears_nothing_out_of_order :
    let loose : Limits := ⟨100, 10, 1⟩
    let tight : Limits := ⟨50, 10800, 1⟩
    let arrivals : List Arrival := [⟨⟨"T1", 60, .usd, "ann"⟩, 5000000000⟩,
      ⟨⟨"T2", 1, .usd, "ann"⟩, 2000000000⟩]
    loose.validate = .ok () ∧ tight.validate = .ok () ∧ loose.Tightened tight ∧
      ∃ laxer stricter s t,
        Engine.ofLimits loose = .ok laxer ∧ Engine.ofLimits tight = .ok stricter ∧
        (laxer.screenings arrivals)[1]? = some s ∧ (stricter.screenings arrivals)[1]? = some t ∧
        s.isRisky = true ∧ t.isRisky = true := by
  intro loose tight arrivals
  have looseValid : loose.validate = .ok () := by decide
  have tightValid : tight.validate = .ok () := by decide
  have tightened : loose.Tightened tight := ⟨by decide, by decide, by decide⟩
  obtain ⟨laxer, stricter, laxMade, strictMade, -, length, covered⟩ :=
    tightening_clears_nothing loose tight looseValid tightValid tightened arrivals
  obtain rfl := Except.ok.inj ((ofLimits_of_valid loose looseValid).symm.trans laxMade)
  have flagged : ((builtIn loose.amountLimit (.fresh (Span.ofSeconds loose.windowSeconds.toNat)
      loose.threshold.toNat)).screenings arrivals)[1]?.map (·.isRisky) = some true := by decide
  obtain ⟨s, laxly, risky⟩ := Option.map_eq_some_iff.mp flagged
  have strictly := List.getElem?_eq_getElem (l := stricter.screenings arrivals) (i := 1)
    (by rw [length]; decide)
  obtain ⟨-, -, raised⟩ := covered 1 _ _ laxly strictly
  exact ⟨looseValid, tightValid, tightened, _, stricter, s, _, laxMade, strictMade, laxly, strictly,
    risky, raised risky⟩

end Engine

end Clearance.Fraud
