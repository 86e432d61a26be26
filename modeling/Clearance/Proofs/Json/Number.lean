import Clearance.Json.Value
import Clearance.Proofs.Json.Container
import Clearance.Proofs.Json.Numeral

/-! Integers are read back from their decimal digits, up to the sixty-four bits in which the digits
of a numeral are gathered. -/
namespace Clearance.Json

open Grammar

/-- The digits of a natural number. -/
abbrev digits (n : Nat) : List Char := Nat.toDigits 10 n

/-! ## Digits -/

theorem digits_isDigit (n : Nat) : ∀ c ∈ digits n, c.isDigit = true :=
  fun _ member => Nat.isDigit_of_mem_toDigits (by decide) (by decide) member

/-- A positive number does not start with a zero. -/
theorem digits_start (n : Nat) (positive : 0 < n) :
    ∃ c tail, digits n = c :: tail ∧ c ≠ '0' := by
  induction n using Nat.strongRecOn with
  | ind n ih =>
    by_cases single : n < 10
    · refine ⟨n.digitChar, [], Nat.toDigits_of_lt_base single, fun zero => ?_⟩
      have code := Nat.toNat_digitChar_of_lt_ten single
      rw [zero] at code
      have : '0'.toNat = 48 := rfl
      omega
    · obtain ⟨c, tail, start, nonzero⟩ := ih (n / 10) (by omega) (by omega)
      refine ⟨c, tail ++ [(n % 10).digitChar], ?_, nonzero⟩
      have split : digits n = digits (n / 10) ++ [(n % 10).digitChar] :=
        Nat.toDigits_of_base_le (by decide) (by omega)
      rw [split, start, List.cons_append]

/-- Nothing that may stand behind a value can prolong a numeral. -/
theorem Ends.stops {rest : List Char} (ends : Ends rest) : Stops rest := by
  intro c head
  match rest, ends with
  | _ :: _, ends =>
    obtain rfl := Option.some.inj head
    rcases ends with rfl | rfl | rfl <;> decide

variable (rest : List Char)

theorem digits_whole (n : Nat) : WholePart (digits n ++ rest) (digits n) rest := by
  rcases Nat.eq_zero_or_pos n with rfl | positive
  · exact .zero rest
  · obtain ⟨c, tail, start, nonzero⟩ := digits_start n positive
    have digit := digits_isDigit n
    rw [start] at digit ⊢
    exact .digits rest digit nonzero

/-! ## Integers -/

theorem ofInt_text (n : Int) : (Value.ofInt n).text =
    if 0 ≤ n then digits n.toNat else '-' :: digits (-n).toNat := by
  rw [Value.ofInt, Value.text, Number.text, Int.toString_eq_repr, Int.repr_eq_if]
  split
  · exact Nat.toList_repr
  · simp

/-- An integer is written as a number that stands for it. -/
theorem ofInt_number (n : Int) : NumberText ((Value.ofInt n).text ++ rest) (some n) rest := by
  have value (k : Nat) : Nat.ofDigitChars 10 (digits k) 0 = k := Nat.ofDigitChars_ten_toDigits
  rw [ofInt_text]
  split
  · next natural =>
    have text := NumberText.natural (digits_whole rest n.toNat)
    rwa [value, Int.toNat_of_nonneg natural] at text
  · next negative =>
    have nonzero : digits (-n).toNat ≠ ['0'] := by
      obtain ⟨c, tail, start, other⟩ := digits_start (-n).toNat (by omega)
      rw [start]
      exact fun zero => other (List.cons.inj zero).1
    have text := NumberText.negative (digits_whole rest (-n).toNat) nonzero
    rwa [value, Int.toNat_of_nonneg (by omega), Int.neg_neg] at text

variable {rest}

/-- An integer of sixty-four bits, with or without a sign, is read back. -/
theorem number_ofInt (n : Int) (low : -0x8000000000000000 ≤ n) (high : n < 0x10000000000000000)
    (ends : Ends rest) : number ((Value.ofInt n).text ++ rest) = .read (.integer n) rest :=
  (number_read_iff (ofInt_number rest n) ends.stops).mpr ⟨rfl, rfl, low, high⟩

/-- What the text of an integer starts with. -/
theorem ofInt_start (n : Int) :
    ∃ c tail, (Value.ofInt n).text = c :: tail ∧ startsNumber c = true := by
  have start := (ofInt_number [] n).start
  rwa [List.append_nil] at start

end Clearance.Json
