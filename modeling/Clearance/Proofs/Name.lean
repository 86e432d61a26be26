import Clearance.Name
import Mathlib.Data.Finset.Card

/-! Names in order: nothing is lost or repeated when names are put in order. -/
namespace Clearance

variable {x name : String} {names : List String}

theorem mem_insertName : x ∈ insertName name names ↔ x = name ∨ x ∈ names := by
  induction names with
  | nil => simp [insertName]
  | cons other rest ih =>
    rw [insertName]
    split
    · simp
    · split
      · next same => subst same; simp
      · simp [ih, or_left_comm]

theorem insertName_increasing (name : String) (increasing : names.Pairwise (· < ·)) :
    (insertName name names).Pairwise (· < ·) := by
  induction names with
  | nil => simp [insertName]
  | cons other rest ih =>
    obtain ⟨before, later⟩ := List.pairwise_cons.mp increasing
    rw [insertName]
    split
    · next less =>
      refine List.pairwise_cons.mpr ⟨fun x member => ?_, increasing⟩
      rcases List.mem_cons.mp member with rfl | member
      · exact less
      · exact String.lt_trans less (before x member)
    · split
      · exact increasing
      · next notLess different =>
        refine List.pairwise_cons.mpr ⟨fun x member => ?_, ih later⟩
        rcases mem_insertName.mp member with rfl | member
        · exact Std.lt_of_le_of_ne (String.not_lt.mp notLess) (Ne.symm different)
        · exact before x member

theorem mem_sortedNames : x ∈ sortedNames names ↔ x ∈ names := by
  induction names with
  | nil => rfl
  | cons name names ih =>
    rw [sortedNames, List.foldr_cons, mem_insertName, ← sortedNames, ih, List.mem_cons]

theorem sortedNames_increasing (names : List String) : (sortedNames names).Pairwise (· < ·) := by
  induction names with
  | nil => exact .nil
  | cons name names ih => exact insertName_increasing name ih

theorem sortedNames_length (names : List String) :
    (sortedNames names).length = names.toFinset.card := by
  have distinct : (sortedNames names).Nodup := by
    refine (sortedNames_increasing names).imp ?_
    rintro a _ less rfl
    exact String.lt_irrefl a less
  have same : (sortedNames names).toFinset = names.toFinset :=
    Finset.ext fun x => by rw [List.mem_toFinset, List.mem_toFinset, mem_sortedNames]
  rw [← List.toFinset_card_of_nodup distinct, same]

end Clearance
