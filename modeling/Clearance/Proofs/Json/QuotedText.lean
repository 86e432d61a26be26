import Clearance.Json.Container
import Clearance.Proofs.Json.Grammar
import Clearance.Proofs.Json.Literal

/-! Blanks and strings are read exactly as the grammar has them: what a reader gives back is what
the grammar finds at that place, and where the grammar finds something the reader does not fail. -/
namespace Clearance.Json

open Grammar

variable {α β : Type} {s rest : List Char} {c : Char}

/-! ## Outcomes -/

namespace Outcome

theorem bind_eq_read_iff {o : Outcome α} {next : α → Reader β} {b : β} :
    o.bind next = .read b rest ↔ ∃ a mid, o = .read a mid ∧ next a mid = .read b rest := by
  constructor
  · exact bind_eq_read
  · rintro ⟨a, mid, rfl, read⟩
    exact read

theorem map_eq_read_iff {o : Outcome α} {f : α → β} {b : β} :
    o.map f = .read b rest ↔ ∃ a, o = .read a rest ∧ f a = b := by
  constructor
  · intro read
    obtain ⟨a, mid, rfl, mapped⟩ := bind_eq_read read
    obtain ⟨rfl, rfl⟩ := Outcome.read.inj mapped
    exact ⟨a, rfl, rfl⟩
  · rintro ⟨a, rfl, rfl⟩
    rfl

theorem located_eq_read_iff {o : Outcome α} {a : α} : o.located = .read a rest ↔ o = .read a rest := by
  cases o <;> simp [located]

end Outcome

/-! ## Blanks -/

theorem isSpace_iff : isSpace c = true ↔ c ∈ [' ', '\t', '\n', '\r'] := by
  simp only [isSpace, Bool.or_eq_true, beq_iff_eq, List.mem_cons, List.not_mem_nil, or_false]
  grind

theorem blank_skipSpace (s : List Char) : Blank s (skipSpace s) := by
  induction s with
  | nil => exact .none []
  | cons c s ih =>
    cases space : isSpace c with
    | true =>
      have skipped : skipSpace (c :: s) = skipSpace s := by simp [skipSpace, space]
      rw [skipped]
      exact .more (isSpace_iff.mp space) ih
    | false =>
      have stopped : skipSpace (c :: s) = c :: s := by simp [skipSpace, space]
      rw [stopped]
      exact .none _

theorem skipSpace_of_blank (blank : Blank s rest) : skipSpace s = skipSpace rest := by
  induction blank with
  | none rest => rfl
  | more space later ih => simpa [skipSpace, isSpace_iff.mpr space] using ih

theorem skipSpace_eq_cons : skipSpace s = c :: rest ↔ Blank s (c :: rest) ∧ isSpace c = false := by
  constructor
  · intro stopped
    refine ⟨stopped ▸ blank_skipSpace s, ?_⟩
    have head := List.head?_dropWhile_not isSpace s
    rw [← skipSpace, stopped] at head
    exact head
  · rintro ⟨blank, solid⟩
    rw [skipSpace_of_blank blank]
    simp [skipSpace, solid]

theorem skipSpace_eq_nil : skipSpace s = [] ↔ Blank s [] := by
  constructor
  · intro stopped
    exact stopped ▸ blank_skipSpace s
  · exact skipSpace_of_blank

theorem Grammar.Blank.trans {t : List Char} (first : Blank s t) (second : Blank t rest) :
    Blank s rest := by
  induction first with
  | none => exact second
  | more space later ih => exact .more space (ih second)

theorem Grammar.Blank.length_le (blank : Blank s rest) : rest.length ≤ s.length := by
  induction blank with
  | none => exact Nat.le_refl _
  | more space later ih => exact Nat.le_succ_of_le ih

/-! ## Strings -/

/-- Digits beyond the hundred and twenty-eight codes of the oldest character set do not count. -/
theorem hexValue_small {n : Nat} (read : hexValue? c = some n) : c.toNat < 128 := by
  unfold hexValue? at read
  split at read
  · next range =>
    have high : c.toNat ≤ 57 := range.2
    omega
  · split at read
    · next range =>
      have high : c.toNat ≤ 102 := range.2
      omega
    · split at read
      · next range =>
        have high : c.toNat ≤ 70 := range.2
        omega
      · cases read

theorem hexDigit_code :
    ∀ k < 128, ∀ n, hexValue? (Char.ofNat k) = some n → HexDigit (Char.ofNat k) n := by
  unfold HexDigit
  decide

theorem hexDigit_listed : ∀ n < 16,
    ∀ digits ∈ ["0123456789abcdef".toList, "0123456789ABCDEF".toList],
      digits[n]?.bind hexValue? = some n := by
  decide

theorem hexValue_iff (c : Char) (n : Nat) : hexValue? c = some n ↔ HexDigit c n := by
  constructor
  · intro read
    -- A character has too many values to try; below 128 there are few enough.
    have code := hexDigit_code c.toNat (hexValue_small read) n
    rw [Char.ofNat_toNat] at code
    exact code read
  · rintro (lower | upper)
    · have listed := hexDigit_listed n (List.getElem?_eq_some_iff.mp lower).1 _ (.head _)
      rwa [lower] at listed
    · have listed := hexDigit_listed n (List.getElem?_eq_some_iff.mp upper).1 _ (.tail _ (.head _))
      rwa [upper] at listed

theorem brokenHex_ne_read (n : Nat) : brokenHex s ≠ .read n rest := by
  intro read
  unfold brokenHex at read
  split at read <;> cases read

theorem hexWord_iff {n : Nat} : hexWord s = .read n rest ↔ HexCode s n rest := by
  constructor
  · intro read
    unfold hexWord at read
    split at read
    · next a b c d tail =>
      split at read
      · next m word =>
        obtain ⟨i, hi, j, hj, k, hk, l, hl, rfl⟩ : ∃ i, hexValue? a = some i ∧ ∃ j,
            hexValue? b = some j ∧ ∃ k, hexValue? c = some k ∧ ∃ l, hexValue? d = some l ∧
              ((i * 16 + j) * 16 + k) * 16 + l = m := by
          simpa [hexWord?, Option.bind_eq_some_iff] using word
        cases read
        exact .digits _ ((hexValue_iff _ _).mp hi) ((hexValue_iff _ _).mp hj)
          ((hexValue_iff _ _).mp hk) ((hexValue_iff _ _).mp hl)
      · exact absurd read (brokenHex_ne_read _)
    · exact absurd read (brokenHex_ne_read _)
  · rintro ⟨tail, first, second, third, fourth⟩
    simp only [← hexValue_iff] at first second third fourth
    simp [hexWord, hexWord?, first, second, third, fourth]

theorem isHighSurrogate_iff {n : Nat} : isHighSurrogate n = true ↔ IsHighSurrogate n := by
  simp [isHighSurrogate, IsHighSurrogate]
  omega

theorem isLowSurrogate_iff {n : Nat} : isLowSurrogate n = true ↔ IsLowSurrogate n := by
  simp [isLowSurrogate, IsLowSurrogate]
  omega

theorem shortEscape_iff {e : Char} : shortEscape? e = some c ↔ (e, c) ∈ letters := by
  constructor
  · intro known
    unfold shortEscape? at known
    split at known <;> cases known <;> decide
  · intro known
    simp only [letters, List.mem_cons, List.not_mem_nil, or_false, Prod.mk.injEq] at known
    rcases known with ⟨rfl, rfl⟩ | ⟨rfl, rfl⟩ | ⟨rfl, rfl⟩ | ⟨rfl, rfl⟩ | ⟨rfl, rfl⟩ | ⟨rfl, rfl⟩ |
      ⟨rfl, rfl⟩ | ⟨rfl, rfl⟩ <;> rfl

theorem hexDigit_lt {n : Nat} (digit : HexDigit c n) : n < 16 := by
  rcases digit with lower | upper
  · exact (List.getElem?_eq_some_iff.mp lower).1
  · exact (List.getElem?_eq_some_iff.mp upper).1

theorem hexCode_lt {n : Nat} (code : HexCode s n rest) : n < 0x10000 := by
  obtain ⟨_, first, second, third, fourth⟩ := code
  have := hexDigit_lt first
  have := hexDigit_lt second
  have := hexDigit_lt third
  have := hexDigit_lt fourth
  omega

theorem toNat_ofNat {n : Nat} (valid : n.isValidChar) : (Char.ofNat n).toNat = n := by
  rw [Char.ofNat, dif_pos valid]
  rfl

theorem toNat_ofNat_code {n : Nat} (code : HexCode s n rest) (notHigh : ¬ IsHighSurrogate n)
    (notLow : ¬ IsLowSurrogate n) : (Char.ofNat n).toNat = n := by
  have bound := hexCode_lt code
  refine toNat_ofNat ?_
  unfold IsHighSurrogate IsLowSurrogate at *
  unfold Nat.isValidChar
  omega

/-- A character is not half of a pair. -/
theorem not_surrogate (c : Char) : ¬ IsHighSurrogate c.toNat ∧ ¬ IsLowSurrogate c.toNat := by
  have valid : c.toNat < 0xD800 ∨ 0xDFFF < c.toNat ∧ c.toNat < 0x110000 := c.valid
  unfold IsHighSurrogate IsLowSurrogate
  omega

theorem toNat_joinSurrogates {high low : Nat} (isHigh : IsHighSurrogate high)
    (isLow : IsLowSurrogate low) : (joinSurrogates high low).toNat = pairCode high low := by
  have valid : ((high - 0xD800) * 0x400 + (low - 0xDC00) + 0x10000).isValidChar := by
    unfold IsHighSurrogate IsLowSurrogate at *
    unfold Nat.isValidChar
    omega
  rw [joinSurrogates, toNat_ofNat valid]
  unfold pairCode
  omega

theorem lowHalf_iff {high : Nat} (isHigh : IsHighSurrogate high) :
    lowHalf high s = .read c rest ↔ ∃ t low, s = '\\' :: 'u' :: t ∧ HexCode t low rest ∧
      IsLowSurrogate low ∧ c.toNat = pairCode high low := by
  constructor
  · intro read
    unfold lowHalf at read
    split at read
    · next t =>
      obtain ⟨low, mid, word, chosen⟩ := bind_eq_read read
      split at chosen
      · next low =>
        have isLow := isLowSurrogate_iff.mp low
        obtain ⟨rfl, rfl⟩ := Outcome.read.inj chosen
        exact ⟨t, _, rfl, hexWord_iff.mp word, isLow, toNat_joinSurrogates isHigh isLow⟩
      · cases chosen
    all_goals cases read
  · rintro ⟨t, low, rfl, code, isLow, joined⟩
    have same : joinSurrogates high low = c :=
      Char.toNat_inj.mp ((toNat_joinSurrogates isHigh isLow).trans joined.symm)
    simp [lowHalf, hexWord_iff.mpr code, Outcome.bind, isLowSurrogate_iff.mpr isLow, same]

theorem escaped_iff : escaped s = .read c rest ↔ Escape s c rest := by
  constructor
  · intro read
    unfold escaped at read
    split at read
    · cases read
    · next t =>
      obtain ⟨n, mid, word, chosen⟩ := bind_eq_read read
      have code := hexWord_iff.mp word
      split at chosen
      · next high =>
        have isHigh := isHighSurrogate_iff.mp high
        obtain ⟨t, low, rfl, second, isLow, joined⟩ := (lowHalf_iff isHigh).mp chosen
        exact .pair code isHigh second isLow joined
      · next notHigh =>
        split at chosen
        · cases chosen
        · next notLow =>
          obtain ⟨rfl, rfl⟩ := Outcome.read.inj chosen
          have same := toNat_ofNat_code code (mt isHighSurrogate_iff.mpr notHigh)
            (mt isLowSurrogate_iff.mpr notLow)
          exact .code (same.symm ▸ code)
    · next e t notCode =>
      split at read
      · next known =>
        cases read
        exact .letter _ (shortEscape_iff.mp known)
      · cases read
  · intro escape
    cases escape with
    | @letter e c rest known =>
      have short := shortEscape_iff.mpr known
      unfold escaped
      split
      · next same => cases same
      · next same =>
        obtain ⟨rfl, rfl⟩ := List.cons.inj same
        simp [shortEscape?] at short
      · next same =>
        obtain ⟨rfl, rfl⟩ := List.cons.inj same
        rw [short]
    | code code =>
      -- The code of a character is never half of a pair, so no second half is looked for.
      obtain ⟨notHigh, notLow⟩ := not_surrogate c
      simp [escaped, hexWord_iff.mpr code, Outcome.bind, mt isHighSurrogate_iff.mp notHigh,
        mt isLowSurrogate_iff.mp notLow]
    | pair first isHigh second isLow joined =>
      have half := (lowHalf_iff isHigh).mpr ⟨_, _, rfl, second, isLow, joined⟩
      simp [escaped, hexWord_iff.mpr first, Outcome.bind, isHighSurrogate_iff.mpr isHigh, half]

/-- A string is read as the characters that it stands for, up to its closing quote. -/
theorem stringTail_iff {done : List Char} {text : String} :
    stringTail done s = .read text rest ↔
      ∃ cs, Chars s cs rest ∧ text = String.ofList (done.reverse ++ cs) := by
  constructor
  · intro read
    fun_induction stringTail done s with
    | case1 => cases read
    | case2 done tail =>
      cases read
      exact ⟨[], .quote _, by simp⟩
    | case3 done tail c mid found ih =>
      obtain ⟨cs, chars, rfl⟩ := ih read
      exact ⟨c :: cs, .escape (escaped_iff.mp found) chars, by simp⟩
    | case4 => cases read
    | case5 => cases read
    | case6 => cases read
    | case7 done c tail notQuote notBackslash visible ih =>
      obtain ⟨cs, chars, rfl⟩ := ih read
      exact ⟨c :: cs, .plain notQuote notBackslash (Nat.not_lt.mp visible) chars, by simp⟩
  · rintro ⟨cs, chars, rfl⟩
    induction chars generalizing done with
    | quote rest => rw [stringTail, List.append_nil]
    | escape head tail ih =>
      rw [stringTail_escaped _ _ _ _ (escaped_iff.mpr head), ih]
      simp
    | plain notQuote notBackslash visible tail ih =>
      rw [stringTail_plain _ _ _ notQuote notBackslash (Nat.not_lt.mpr visible), ih]
      simp

theorem Grammar.Chars.length_lt {cs : List Char} (chars : Chars s cs rest) :
    rest.length < s.length := by
  induction chars with
  | quote rest => simp
  | escape head tail ih =>
    have shorter := escaped_shorter (escaped_iff.mpr head)
    simp only [List.length_cons]
    omega
  | plain notQuote notBackslash visible tail ih =>
    simp only [List.length_cons]
    omega

theorem quoted_iff {t : List Char} {text : String} :
    Quoted ('"' :: t) text rest ↔ stringTail [] t = .read text rest := by
  rw [stringTail_iff]
  constructor
  · rintro ⟨chars⟩
    exact ⟨_, chars, rfl⟩
  · rintro ⟨cs, chars, rfl⟩
    exact .quoted chars

end Clearance.Json
