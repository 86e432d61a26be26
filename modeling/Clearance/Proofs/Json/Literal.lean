import Clearance.Json.Literal

/-! String literals are read back as they were written, whatever characters they hold. -/
namespace Clearance.Json

/-- The four digits of a control character are read back. -/
theorem hexWord_control :
    ∀ n < 32, hexWord? '0' '0' (hexDigit (n / 16)) (hexDigit (n % 16)) = some n := by
  decide

theorem escaped_control (c : Char) (control : c.toNat < 0x20) (rest : List Char) :
    escaped ('u' :: '0' :: '0' :: hexDigit (c.toNat / 16) :: hexDigit (c.toNat % 16) :: rest) =
      .read c rest := by
  have high : isHighSurrogate c.toNat = false := by simp [isHighSurrogate]; omega
  have low : isLowSurrogate c.toNat = false := by simp [isLowSurrogate]; omega
  simp [escaped, hexWord, hexWord_control _ control, Outcome.bind, high, low]

/-- A character that needs no escape. -/
theorem stringTail_plain (done : List Char) (c : Char) (rest : List Char) (quote : c ≠ '"')
    (backslash : c ≠ '\\') (visible : ¬ c.toNat < 0x20) :
    stringTail done (c :: rest) = stringTail (c :: done) rest := by
  rw [stringTail.eq_def]
  split
  case h_4 same =>
    obtain ⟨rfl, rfl⟩ := List.cons.inj same
    exact if_neg visible
  all_goals simp_all

theorem stringTail_escaped (done : List Char) (c : Char) (text rest : List Char)
    (read : escaped text = .read c rest) :
    stringTail done ('\\' :: text) = stringTail (c :: done) rest := by
  rw [stringTail]
  split <;> simp_all

theorem stringTail_escapeChar (done : List Char) (c : Char) (rest : List Char) :
    stringTail done (escapeChar c ++ rest) = stringTail (c :: done) rest := by
  unfold escapeChar
  split
  case h_8 =>
    split
    · next control => exact stringTail_escaped _ _ _ _ (escaped_control c control rest)
    · next visible => exact stringTail_plain _ _ _ ‹_› ‹_› visible
  all_goals exact stringTail_escaped _ _ _ _ rfl

theorem stringTail_escape (done s rest : List Char) :
    stringTail done (escape s ++ '"' :: rest) = .read (String.ofList (done.reverse ++ s)) rest := by
  induction s generalizing done with
  | nil => rw [escape, List.flatMap_nil, List.nil_append, stringTail, List.append_nil]
  | cons c s ih =>
    have split : escape (c :: s) = escapeChar c ++ escape s := List.flatMap_cons
    rw [split, List.append_assoc, stringTail_escapeChar, ih, List.reverse_cons, List.append_assoc]
    rfl

/-- What stands behind the opening quote of a literal is read as its text. -/
theorem stringTail_literal (s : String) (rest : List Char) :
    stringTail [] (escape s.toList ++ '"' :: rest) = .read s rest := by
  rw [stringTail_escape, List.reverse_nil, List.nil_append, String.ofList_toList]

end Clearance.Json
