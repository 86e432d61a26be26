import Clearance.Fraud.Engine
import Clearance.Proofs.Fraud.Limits
import Clearance.Proofs.Fraud.RateLimit

/-! Sequences of transactions that are screened by one engine. The engine of some thresholds carries
one velocity rule along, whose run consists of all transactions, those that were flagged
included. -/
namespace Clearance.Fraud

/-- A transaction and the reading of the clock at which it is screened. -/
structure Arrival where
  transaction : Transaction
  now : Instant

def Arrival.operation (a : Arrival) : Velocity.Operation := .check a.transaction a.now

namespace Engine

section Runs

variable {ρ : Type} [Rule ρ]

def after (engine : Engine ρ) : List Arrival → Engine ρ
  | [] => engine
  | a :: later => after (engine.check a.now a.transaction).engine later

def screenings (engine : Engine ρ) : List Arrival → List Screening
  | [] => []
  | a :: later =>
    (engine.check a.now a.transaction).screening ::
      screenings (engine.check a.now a.transaction).engine later

@[simp] theorem screenings_length (engine : Engine ρ) (arrivals : List Arrival) :
    (engine.screenings arrivals).length = arrivals.length := by
  induction arrivals generalizing engine with
  | nil => rfl
  | cons a later ih => simp [screenings, ih]

/-- Each transaction is screened by the engine that the transactions before it have left. -/
theorem screenings_entry (engine : Engine ρ) (arrivals : List Arrival) (i : Nat) (a : Arrival)
    (present : arrivals[i]? = some a) : (engine.screenings arrivals)[i]? =
      some ((engine.after (arrivals.take i)).check a.now a.transaction).screening := by
  induction arrivals generalizing engine i with
  | nil => simp at present
  | cons first later ih =>
    cases i with
    | zero => simp_all [screenings, after]
    | succ i => simpa [screenings, after] using ih _ i (by simpa using present)

end Runs

/-! ## The engine of some thresholds -/

/-- The amount rule, then a velocity rule in some state. -/
def builtIn (limit : Int64) (v : Velocity) : Engine StandardRule :=
  ⟨[.amount limit, .velocity v none]⟩

theorem builtIn_screening (limit : Int64) (v : Velocity) (a : Arrival) :
    ((builtIn limit v).check a.now a.transaction).screening =
      .ofFindings [checkAmount limit a.transaction, (v.check a.transaction.principal a.now).1] :=
  rfl

/-- The velocity rule goes on whatever the amount rule has found. -/
theorem builtIn_engine (limit : Int64) (v : Velocity) (a : Arrival) :
    ((builtIn limit v).check a.now a.transaction).engine = builtIn limit (v.step a.operation) :=
  rfl

theorem builtIn_after (limit : Int64) (v : Velocity) (arrivals : List Arrival) :
    (builtIn limit v).after arrivals =
      builtIn limit (Velocity.execute (arrivals.map Arrival.operation) v) := by
  induction arrivals generalizing v with
  | nil => rfl
  | cons a later ih => rw [after, builtIn_engine, ih]; rfl

theorem ofLimits_of_valid (limits : Limits) (valid : limits.validate = .ok ()) :
    ofLimits limits = .ok (builtIn limits.amountLimit
      (.fresh (Span.ofSeconds limits.windowSeconds.toNat) limits.threshold.toNat)) := by
  rw [ofLimits, Limits.window_of_valid limits valid]
  rfl

end Engine

theorem checkAmount_rule (limit : Int64) (t : Transaction) :
    (checkAmount limit t).rule = amountRuleName := by
  unfold checkAmount; split <;> rfl

theorem checkAmount_failed (limit : Int64) (t : Transaction) :
    (checkAmount limit t).passed = false ↔ limit.toInt < t.amount.toInt := by
  rw [← Int64.lt_iff_toInt_lt]
  unfold checkAmount
  split <;> simp_all [Finding.fail, Finding.pass]

/-! ## What a screening says -/

/-- With clock readings that do not decrease, the velocity rule counts the transactions of the
principal that are less than a window old. -/
theorem survivors_length (window : Span) (earlier : List Arrival) (a : Arrival)
    (latest : ∀ b ∈ earlier, b.now ≤ a.now) :
    (Velocity.survivors window a.transaction.principal
      (earlier.map Arrival.operation ++ [a.operation])).length =
      (earlier ++ [a]).countP fun b =>
        b.transaction.principal == a.transaction.principal && a.now - b.now < window := by
  have touches : a.operation.touches a.transaction.principal = true := by
    simp [Arrival.operation, Velocity.Operation.touches]
  have operations : earlier.map Arrival.operation ++ [a.operation] =
      (earlier ++ [a]).map Arrival.operation := by simp
  have latestOperation : ∀ op ∈ earlier.map Arrival.operation ++ [a.operation],
      op.now ≤ a.operation.now := by
    intro op member
    rcases List.mem_append.mp member with member | member
    · obtain ⟨b, before, rfl⟩ := List.mem_map.mp member
      exact latest b before
    · exact Int.le_of_eq (congrArg _ (List.mem_singleton.mp member))
  rw [Velocity.survivors_latest touches latestOperation, List.length_map,
    ← List.countP_eq_length_filter, operations, List.countP_map]
  rfl

/-- What each screening consists of, when the clock readings do not decrease. -/
theorem builtIn_screenings (limit : Int64) (window : Span) (threshold : Nat)
    (arrivals : List Arrival) (ordered : arrivals.Pairwise fun a b => a.now ≤ b.now) (i : Nat)
    (a : Arrival) (present : arrivals[i]? = some a) :
    ((Engine.builtIn limit (.fresh window threshold)).screenings arrivals)[i]? =
      some (.ofFindings [checkAmount limit a.transaction,
        (Velocity.fresh window threshold).judge ((arrivals.take (i + 1)).countP fun b =>
          b.transaction.principal == a.transaction.principal && a.now - b.now < window)]) := by
  have upToHere : arrivals.take (i + 1) = arrivals.take i ++ [a] := by
    rw [List.take_add_one, present]; rfl
  have latest : ∀ b ∈ arrivals.take i, b.now ≤ a.now := by
    have sorted := ordered.sublist (List.take_sublist (i + 1) arrivals)
    rw [upToHere, List.pairwise_append] at sorted
    exact fun b member => sorted.2.2 b member a (List.mem_singleton_self a)
  have judged := Velocity.fresh_answer ((arrivals.take i).map Arrival.operation) window threshold
    a.transaction a.now
  have counted := survivors_length window _ a latest
  rw [Arrival.operation] at counted
  rw [counted, ← upToHere] at judged
  rw [Engine.screenings_entry _ _ _ _ present, Engine.builtIn_after, Engine.builtIn_screening]
  exact congrArg (fun f => some (Screening.ofFindings [checkAmount limit a.transaction, f]))
    (Option.some.inj judged)

/-- Screening under valid thresholds, in terms of the transactions alone: the amount is compared
with its limit, and the velocity finding counts the principal's transactions of the last window,
this one and all flagged ones included. -/
theorem screening_meaning (limits : Limits) (valid : limits.validate = .ok ())
    (arrivals : List Arrival) (ordered : arrivals.Pairwise fun a b => a.now ≤ b.now) :
    ∃ engine, Engine.ofLimits limits = .ok engine ∧
      (engine.screenings arrivals).length = arrivals.length ∧
      ∀ i a, arrivals[i]? = some a →
        ∃ amount velocity isRisky,
          (engine.screenings arrivals)[i]? = some ⟨[amount, velocity], isRisky⟩ ∧
          amount.rule = "amount_threshold" ∧ velocity.rule = "velocity" ∧
          (amount.passed = false ↔ limits.amountLimit.toInt < a.transaction.amount.toInt) ∧
          (velocity.passed = false ↔
            limits.threshold.toNat < (arrivals.take (i + 1)).countP fun b =>
              b.transaction.principal == a.transaction.principal &&
                a.now - b.now < Span.ofSeconds limits.windowSeconds.toNat) ∧
          (isRisky = true ↔ amount.passed = false ∨ velocity.passed = false) := by
  refine ⟨_, Engine.ofLimits_of_valid limits valid, Engine.screenings_length _ _, ?_⟩
  intro i a present
  refine ⟨_, _, _, builtIn_screenings _ _ _ arrivals ordered i a present, checkAmount_rule _ _,
    Velocity.judge_rule _ _, checkAmount_failed _ _, Velocity.judge_failed _ _, ?_⟩
  simp

/-- Three transactions of one principal within an hour, the second of them too large, and one of
another principal. Two are allowed in an hour: the third is flagged, since the second counts. -/
theorem screening_meaning_after_large_amount :
    let limits : Limits := ⟨100, 3600, 2⟩
    let arrivals : List Arrival := [⟨⟨"T1", 1, .usd, "ann"⟩, 0⟩, ⟨⟨"T2", 101, .usd, "ann"⟩, 5⟩,
      ⟨⟨"T3", 1, .eur, "bob"⟩, 6⟩, ⟨⟨"T4", 1, .usd, "ann"⟩, 7⟩]
    limits.validate = .ok () ∧ (arrivals.Pairwise fun a b => a.now ≤ b.now) ∧
    arrivals[3]? = some ⟨⟨"T4", 1, .usd, "ann"⟩, 7⟩ ∧
      ∃ engine amount velocity, Engine.ofLimits limits = .ok engine ∧
        (engine.screenings arrivals)[3]? = some ⟨[amount, velocity], true⟩ ∧
        amount.passed = true ∧ velocity.passed = false := by
  intro limits arrivals
  have valid : limits.validate = .ok () := by decide
  have ordered : arrivals.Pairwise fun a b => a.now ≤ b.now := by decide
  have present : arrivals[3]? = some ⟨⟨"T4", 1, .usd, "ann"⟩, 7⟩ := rfl
  refine ⟨valid, ordered, present, ?_⟩
  obtain ⟨engine, made, -, screened⟩ := screening_meaning limits valid arrivals ordered
  obtain ⟨amount, velocity, isRisky, entry, -, -, large, high, risky⟩ := screened 3 _ present
  have flagged : velocity.passed = false := high.mpr (by decide)
  have small : amount.passed = true := by
    rw [← Bool.not_eq_false, large]; decide
  rw [risky.mpr (.inr flagged)] at entry
  exact ⟨engine, amount, velocity, made, entry, small, flagged⟩

end Clearance.Fraud
