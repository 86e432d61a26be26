import Clearance.Proofs.Fraud.Screening

/-! The window that thresholds stand for. Their seconds are taken as a signed number of the same
width, so that there are four kinds of them: none at all, those that can be used, those that are too
many to be counted, and those that are taken as negative. The last kind makes a window without
complaint, under which the velocity rule would count nothing. -/
namespace Clearance.Fraud

namespace Limits

/-- From half of the range on, the seconds are taken as negative. -/
theorem signed_seconds_wrapped (n : UInt64) (large : 0x8000000000000000 ≤ n.toNat) :
    n.toInt64.toInt = n.toNat - 0x10000000000000000 := by
  have beyond : ¬ 2 * n.toNat < 0x10000000000000000 := by omega
  exact (BitVec.toInt_eq_toNat_cond n.toBitVec).trans (if_neg beyond)

theorem ofSeconds_positive (seconds : Int) : 0 < Span.ofSeconds seconds ↔ 0 < seconds := by
  have nanos : 0 < seconds * 1000000000 ↔ 0 < seconds := by omega
  exact nanos

theorem window_eq_ok (l : Limits) (window : Span) : l.window = .ok window ↔
    l.windowSeconds.toInt64.toInt.natAbs ≤ greatestSpanSeconds ∧
      Span.ofSeconds l.windowSeconds.toInt64.toInt = window := by
  rw [Limits.window, Span.ofSeconds?]
  split
  · next counted => rw [Except.ok.injEq, and_iff_right counted]
  · next beyond => simp only [reduceCtorEq, beyond, false_and]

/-- Thresholds are valid exactly if their window can be counted and is positive. -/
theorem validate_iff_window (l : Limits) :
    l.validate = .ok () ↔ ∃ window, l.window = .ok window ∧ 0 < window := by
  constructor
  · intro valid
    obtain ⟨positive, -⟩ := (validate_iff l).mp valid
    exact ⟨_, window_of_valid l valid, (ofSeconds_positive _).mpr (by omega)⟩
  · rintro ⟨window, counted, positive⟩
    obtain ⟨bound, rfl⟩ := (window_eq_ok l _).mp counted
    rw [ofSeconds_positive] at positive
    -- Seconds that are taken as negative make no positive window, so that none were changed.
    have small : l.windowSeconds.toNat < 0x8000000000000000 := by
      by_contra large
      have wrapped := signed_seconds_wrapped l.windowSeconds (Nat.le_of_not_lt large)
      have below := l.windowSeconds.toNat_lt
      omega
    rw [signed_seconds _ small] at bound positive
    exact (validate_iff l).mpr ⟨by omega, by simpa using bound⟩

example : window ⟨1000000, 18446744073709551615, 5⟩ = .ok (Span.ofSeconds (-1)) := by decide

end Limits

/-! ## Counting the check itself -/

/-- Under a positive window, a check is the newest entry that it leaves behind. -/
theorem Velocity.check_newest (v : Velocity) (principal : String) (now : Instant)
    (positive : 0 < v.window) :
    ((v.check principal now).2.table.queue principal).getLast? = some now := by
  have live : v.isLive now now = true := by simpa [isLive] using positive
  simp [check, record, List.filter_append, live]

theorem Velocity.check_counts (v : Velocity) (principal : String) (now : Instant)
    (positive : 0 < v.window) : 1 ≤ (v.check principal now).2.count principal := by
  have newest := List.mem_of_getLast? (v.check_newest principal now positive)
  exact List.length_pos_of_mem newest

/-- Valid thresholds are those whose window can be counted and is positive. Their window is as long
as they say, an engine can be made of them, and whatever that engine has screened, a further check
of its velocity rule judges a count in which the check itself stands last. -/
theorem valid_window_meaning (l : Limits) :
    (l.validate = .ok () ↔ ∃ window, l.window = .ok window ∧ 0 < window) ∧
    (l.validate = .ok () →
      l.window = .ok (Span.ofSeconds l.windowSeconds.toNat) ∧
      ∃ engine, Engine.ofLimits l = .ok engine ∧ ∀ arrivals : List Arrival, ∃ v : Velocity,
        (engine.after arrivals).rules = [.amount l.amountLimit, .velocity v none] ∧
        ∀ principal now,
          (v.check principal now).1 = v.judge ((v.check principal now).2.count principal) ∧
          1 ≤ (v.check principal now).2.count principal ∧
          ((v.check principal now).2.table.queue principal).getLast? = some now) := by
  refine ⟨l.validate_iff_window, fun valid => ⟨l.window_of_valid valid, _,
    Engine.ofLimits_of_valid l valid, fun arrivals => ?_⟩⟩
  obtain ⟨window, counted, positive⟩ := l.validate_iff_window.mp valid
  obtain rfl : Span.ofSeconds l.windowSeconds.toNat = window :=
    Except.ok.inj ((l.window_of_valid valid).symm.trans counted)
  refine ⟨_, by rw [Engine.builtIn_after]; rfl, fun principal now => ?_⟩
  have isOpen : 0 < (Velocity.execute (arrivals.map Arrival.operation)
      (.fresh (Span.ofSeconds l.windowSeconds.toNat) l.threshold.toNat)).window := by
    rwa [Velocity.execute_window]
  exact ⟨rfl, Velocity.check_counts _ _ _ isOpen, Velocity.check_newest _ _ _ isOpen⟩

/-- The longest window. The check that is counted reads a clock that was set back behind the checks
before it, and so drops none of them. -/
theorem valid_window_meaning_longest :
    let l : Limits := ⟨100, 9223372036854775, 1⟩
    l.validate = .ok () ∧ l.window = .ok (Span.ofSeconds 9223372036854775) ∧
      ∃ engine v, Engine.ofLimits l = .ok engine ∧
        (engine.after [⟨⟨"T1", 1, .usd, "ann"⟩, 60⟩, ⟨⟨"T2", 1, .usd, "ann"⟩, 70⟩]).rules =
          [.amount 100, .velocity v none] ∧
        ((v.check "ann" 0).2.table.queue "ann").getLast? = some 0 := by
  intro l
  have valid : l.validate = .ok () := by decide
  obtain ⟨window, engine, made, counts⟩ := (valid_window_meaning l).2 valid
  have seconds : (l.windowSeconds.toNat : Int) = 9223372036854775 := by decide
  obtain ⟨v, rules, counted⟩ := counts [⟨⟨"T1", 1, .usd, "ann"⟩, 60⟩, ⟨⟨"T2", 1, .usd, "ann"⟩, 70⟩]
  exact ⟨valid, seconds ▸ window, engine, v, made, rules, (counted "ann" 0).2.2⟩

end Clearance.Fraud
