import Mathlib.Data.List.TakeWhile
import Clearance.Text.Blank

/-! Trimming. Nothing is left of a text exactly if it is blank, and only blanks around a text are
dropped. -/
namespace Clearance.Text

variable {s : List Char}

theorem trim_eq_nil : trim s = [] ↔ ∀ c ∈ s, isBlank c = true := by
  rw [trim, List.reverse_eq_nil_iff, List.dropWhile_eq_nil_iff]
  constructor
  · intro left
    cases stopped : s.dropWhile isBlank with
    | nil => exact List.dropWhile_eq_nil_iff.mp stopped
    | cons c rest =>
      -- The first character that is left is not blank.
      have solid := List.head?_dropWhile_not isBlank s
      have blank := left c (by simp [stopped])
      simp [stopped, blank] at solid
  · intro blank c member
    have dropped := (List.dropWhile_suffix isBlank).subset (List.mem_reverse.mp member)
    exact blank c dropped

theorem trim_solid (solid : ∀ c ∈ s, isBlank c = false) : trim s = s := by
  have stays {t : List Char} (solid : ∀ c ∈ t, isBlank c = false) : t.dropWhile isBlank = t := by
    cases t with
    | nil => rfl
    | cons c t => simp [solid c List.mem_cons_self]
  have reversed : ∀ c ∈ s.reverse, isBlank c = false := by simpa using solid
  rw [trim, stays solid, stays reversed, List.reverse_reverse]

theorem trim_append {before after : List Char} (blankBefore : ∀ c ∈ before, isBlank c = true)
    (blankAfter : ∀ c ∈ after, isBlank c = true) : trim (before ++ s ++ after) = trim s := by
  have reversed : ∀ c ∈ after.reverse, isBlank c = true := by simpa using blankAfter
  rw [List.append_assoc, trim, List.dropWhile_append_of_pos blankBefore, trim, List.dropWhile_append]
  split
  · next empty =>
    rw [List.isEmpty_iff.mp empty, List.dropWhile_eq_nil_iff.mpr blankAfter]
  · rw [List.reverse_append, List.dropWhile_append_of_pos reversed]

end Clearance.Text
