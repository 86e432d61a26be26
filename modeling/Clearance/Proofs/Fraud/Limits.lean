import Clearance.Fraud.Limits
import Clearance.Proofs.Policy.Selection

/-! Thresholds that can be used, and the files that hold them. -/
namespace Clearance.Fraud.Limits

theorem validate_iff (l : Limits) : l.validate = .ok () ↔
    0 < l.windowSeconds.toNat ∧ (l.windowSeconds.toNat : Int) ≤ greatestSpanSeconds := by
  have positive : l.windowSeconds ≠ 0 ↔ 0 < l.windowSeconds.toNat := by
    rw [ne_eq, ← UInt64.toNat_inj]; exact Nat.pos_iff_ne_zero.symm
  rw [← positive, validate]
  by_cases zero : l.windowSeconds = 0
  · simp [zero]
  · by_cases large : greatestSpanSeconds < (l.windowSeconds.toNat : Int)
    · simp [zero, large]
    · simp [zero, large, Int.not_lt.mp large]

/-- The seconds are read as a signed number, which changes none that is small enough. -/
theorem signed_seconds (n : UInt64) (small : n.toNat < 0x8000000000000000) :
    n.toInt64.toInt = n.toNat := by
  refine BitVec.toInt_eq_toNat_of_lt ?_
  have bound : 2 * n.toNat < 0x10000000000000000 := by omega
  exact bound

/-- The window of valid thresholds is as long as they say. -/
theorem window_of_valid (l : Limits) (valid : l.validate = .ok ()) :
    l.window = .ok (Span.ofSeconds l.windowSeconds.toNat) := by
  obtain ⟨_, bound⟩ := (validate_iff l).mp valid
  have small : l.windowSeconds.toNat < 0x8000000000000000 := by
    simp only [greatestSpanSeconds] at bound
    omega
  rw [window, signed_seconds _ small, Span.ofSeconds?, if_pos (by simpa using bound)]

/-! ## Files -/

/-- A readable file with thresholds that can be used. -/
def Usable (files : Files) (path : String) (limits : Limits) : Prop :=
  ∃ text, files.Holds path text ∧ ofText text = .ok limits ∧ limits.validate = .ok ()

section Files
variable {files : Files} {path text : String} {l : Limits}

/-- Of a readable file, the text is read and what it holds is validated. -/
theorem load_held (held : files.Holds path text) : load files path =
    ((ofText text).mapError .malformed).bind fun l => l.validate.map fun _ => l := by
  rw [load, Files.readText_iff.mpr held]
  rfl

theorem load_held_iff (held : files.Holds path text) :
    load files path = .ok l ↔ ofText text = .ok l ∧ l.validate = .ok () := by
  rw [load_held held, Policy.mapError_bind_eq_ok]
  constructor
  · rintro ⟨read, decoded, validated⟩
    cases valid : read.validate with
    | ok =>
      rw [valid] at validated
      obtain rfl := Except.ok.inj validated
      exact ⟨decoded, valid⟩
    | error failure =>
      rw [valid] at validated
      cases validated
  · rintro ⟨decoded, valid⟩
    exact ⟨l, decoded, by rw [valid]; rfl⟩

theorem load_iff : load files path = .ok l ↔ Usable files path l := by
  cases read : files.readText path with
  | ok text =>
    have held := Files.readText_iff.mp read
    constructor
    · intro loaded
      exact ⟨text, held, (load_held_iff held).mp loaded⟩
    · rintro ⟨other, holds, usable⟩
      exact (load_held_iff holds).mpr usable
  | error reason =>
    refine iff_of_false (fun loaded => ?_) fun ⟨text, holds, _⟩ => ?_
    · rw [load, read] at loaded
      cases loaded
    · cases read.symm.trans (Files.readText_iff.mpr holds)

end Files

end Clearance.Fraud.Limits
