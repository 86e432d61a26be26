import Clearance.Currency
import Clearance.Proofs.Text.Trim

/-! A currency code is read as itself: trimming and putting into capitals leave it alone. -/
namespace Clearance

variable {c : Char}

theorem isCapital_range (capital : isCapital c = true) : 65 ≤ c.toNat ∧ c.toNat ≤ 90 := by
  simp only [isCapital, Bool.and_eq_true, decide_eq_true_eq] at capital
  exact capital

theorem isCapital_letter (capital : isCapital c = true) : isLetter c = true := by
  simp [isLetter, capital]

theorem isLetter_range (letter : isLetter c = true) : 65 ≤ c.toNat ∧ c.toNat ≤ 122 := by
  simp only [isLetter, Bool.or_eq_true, Bool.and_eq_true, decide_eq_true_eq] at letter
  rcases letter with capital | ⟨low, high⟩
  · have range := isCapital_range capital
    omega
  · have low : 97 ≤ c.toNat := low
    have high : c.toNat ≤ 122 := high
    omega

theorem isBlank_letter (letter : isLetter c = true) : Text.isBlank c = false := by
  have range := isLetter_range letter
  simp [Text.isBlank, Text.inRanges, Text.blankRanges, Text.CodeRange.has]
  omega

theorem toUpper_stays (outside : c.toNat < 97 ∨ 122 < c.toNat) : c.toUpper = c := by
  refine dif_neg fun small => ?_
  have low : 97 ≤ c.toNat := small.1
  have high : c.toNat ≤ 122 := small.2
  omega

theorem upperChar_capital (capital : isCapital c = true) : Text.upperChar c = [c] := by
  have range := isCapital_range capital
  rw [Text.upperChar, if_pos (by omega), toUpper_stays (by omega)]

variable {cs : List Char}

theorem upper_capitals (capitals : ∀ c ∈ cs, isCapital c = true) : Text.upper cs = cs := by
  induction cs with
  | nil => rfl
  | cons c cs ih =>
    have later := ih fun d member => capitals d (List.mem_cons_of_mem _ member)
    rw [Text.upper] at later ⊢
    rw [List.flatMap_cons, upperChar_capital (capitals c List.mem_cons_self), later]
    rfl

theorem isThreeCapitals_iff {s : String} : isThreeCapitals s = true ↔
    s.toList.length = 3 ∧ ∀ x ∈ s.toList, isCapital x = true := by
  rw [isThreeCapitals, Bool.and_eq_true, beq_iff_eq, List.all_eq_true]

namespace Currency

theorem capitals (c : Currency) : ∀ x ∈ c.code.toList, isCapital x = true :=
  (isThreeCapitals_iff.mp c.isCode).2

theorem length_code (c : Currency) : c.code.toList.length = 3 :=
  (isThreeCapitals_iff.mp c.isCode).1

theorem normalized_code (c : Currency) : normalized c.code = c.code := by
  have solid : ∀ x ∈ c.code.toList, Text.isBlank x = false :=
    fun x member => isBlank_letter (isCapital_letter (c.capitals x member))
  rw [normalized, Text.trim_solid solid, upper_capitals c.capitals, String.ofList_toList]

/-- A text is read as the code that it is when put into capitals, and as nothing else. -/
theorem ofText_iff (text : String) (c : Currency) :
    ofText text = .ok c ↔ normalized text = c.code := by
  constructor
  · intro read
    simp only [ofText] at read
    split at read
    · cases read
    · split at read
      · cases read
      · split at read
        · exact congrArg code (Except.ok.inj read)
        · cases read
  · intro same
    have letters : c.code.toList.all isLetter = true :=
      List.all_eq_true.mpr fun x member => isCapital_letter (c.capitals x member)
    have present : ¬ c.code.isEmpty = true := by
      intro empty
      have length := c.length_code
      rw [String.isEmpty_iff.mp empty] at length
      cases length
    simp [ofText, same, present, letters, c.isCode]

theorem ofText_code (c : Currency) : ofText c.code = .ok c :=
  (ofText_iff _ _).mpr c.normalized_code

end Currency

end Clearance
