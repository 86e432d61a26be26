import Clearance.Json.Scalar
import Clearance.Proofs.Json.QuotedText

/-! Numbers are read as the grammar has them. What stands behind one must not prolong it; then a
numeral comes out that denotes the same, and its value is an integer exactly if the number is one
and fits the sixty-four bits in which digits are gathered. -/
namespace Clearance.Json

open Grammar

variable {α : Type} {s t u rest ds fraction : List Char} {exponent : Bool} {x : Option Int}

/-! ## What may follow -/

/-- Nothing here is another digit. -/
def NoDigit (rest : List Char) : Prop := ∀ c ∈ rest.head?, c.isDigit = false

/-- Nothing here goes on with a whole part: neither a digit nor a point. -/
def NoFraction (rest : List Char) : Prop := ∀ c ∈ rest.head?, c.isDigit = false ∧ c ≠ '.'

/-- Nothing here prolongs a number. -/
def Stops (rest : List Char) : Prop :=
  ∀ c ∈ rest.head?, c.isDigit = false ∧ c ≠ '.' ∧ c ≠ 'e' ∧ c ≠ 'E'

theorem noFraction_exponent (exponential : ExponentPart u exponent rest) (stops : Stops rest) :
    NoFraction u := by
  intro c head
  cases exponential with
  | absent => exact ⟨(stops c head).1, (stops c head).2.1⟩
  | present rest marked signed digits =>
    obtain rfl := Option.some.inj head
    rcases marked with rfl | rfl <;> decide

theorem noDigit_fraction (fractional : FractionPart t fraction u) (behind : NoFraction u) :
    NoDigit t := by
  intro c head
  cases fractional with
  | absent => exact (behind c head).1
  | present =>
    obtain rfl := Option.some.inj head
    decide

/-! ## Parts -/

theorem digitsOf_append (digit : ∀ c ∈ ds, c.isDigit = true) (behind : NoDigit rest) :
    digitsOf (ds ++ rest) = ds.map digitValue ∧ afterDigits (ds ++ rest) = rest := by
  rw [digitsOf, afterDigits, List.takeWhile_append_of_pos digit, List.dropWhile_append_of_pos digit]
  cases rest with
  | nil => simp
  | cons c rest => simp [behind c rfl]

variable (atEnd : Cause)

theorem wholePart_read (whole : WholePart s ds rest) (behind : NoDigit rest) :
    wholePart atEnd s = .read (ds.map digitValue) rest := by
  cases whole with
  | zero =>
    cases rest with
    | nil => rfl
    | cons c rest => simp [wholePart, behind c rfl, digitValue]
  | @digits d ds rest digit nonzero =>
    obtain ⟨read, left⟩ := digitsOf_append digit behind
    rw [List.cons_append] at read left ⊢
    rw [wholePart.eq_def]
    split
    · next same => cases same
    · next same => exact absurd (List.cons.inj same).1 nonzero
    · next same =>
      obtain ⟨rfl, rfl⟩ := List.cons.inj same
      rw [if_pos (digit d List.mem_cons_self), read, left]

theorem fractionPart_read (fractional : FractionPart s fraction rest) (behind : NoFraction rest) :
    fractionPart atEnd s = .read (fraction.map digitValue) rest := by
  cases fractional with
  | absent =>
    unfold fractionPart
    split
    · exact absurd rfl (behind '.' rfl).2
    · exact absurd rfl (behind '.' rfl).2
    · rfl
  | @present d ds rest digit =>
    obtain ⟨read, left⟩ := digitsOf_append digit fun c head => (behind c head).1
    rw [List.cons_append] at read left
    simp only [List.cons_append, fractionPart]
    rw [if_pos (digit d List.mem_cons_self), read, left]

theorem exponentDigits_read (negative : Bool) {d : Char} (digit : ∀ c ∈ d :: ds, c.isDigit = true)
    (behind : NoDigit rest) : exponentDigits atEnd negative (d :: ds ++ rest) =
      .read ⟨negative, (d :: ds).map digitValue⟩ rest := by
  obtain ⟨read, left⟩ := digitsOf_append digit behind
  rw [List.cons_append] at read left ⊢
  rw [exponentDigits, if_pos (digit d List.mem_cons_self), read, left]

theorem exponentPart_read (exponential : ExponentPart s exponent rest) (stops : Stops rest) :
    ∃ e, exponentPart atEnd s = .read e rest ∧ e.isSome = exponent := by
  cases exponential with
  | absent =>
    refine ⟨none, ?_, rfl⟩
    unfold exponentPart
    split
    case h_7 => rfl
    case h_1 | h_3 | h_5 => exact absurd rfl (stops 'e' rfl).2.2.1
    case h_2 | h_4 | h_6 => exact absurd rfl (stops 'E' rfl).2.2.2
  | @present mark d sign ds rest marked signed digit =>
    have behind : NoDigit rest := fun c head => (stops c head).1
    have plus : d ≠ '+' := by rintro rfl; exact absurd (digit _ List.mem_cons_self) (by decide)
    have minus : d ≠ '-' := by rintro rfl; exact absurd (digit _ List.mem_cons_self) (by decide)
    have signless : ∃ negative, exponentPart atEnd (mark :: sign ++ (d :: ds ++ rest)) =
        (exponentDigits atEnd negative (d :: ds ++ rest)).map some := by
      rcases signed with rfl | rfl | rfl
      · exact ⟨false, by rcases marked with rfl | rfl <;> simp [exponentPart, plus, minus]⟩
      · exact ⟨false, by rcases marked with rfl | rfl <;> rfl⟩
      · exact ⟨true, by rcases marked with rfl | rfl <;> rfl⟩
    obtain ⟨negative, same⟩ := signless
    rw [same, exponentDigits_read atEnd negative digit behind]
    exact ⟨_, rfl, rfl⟩

/-! ## Numerals -/

/-- What a numeral stands for, if that is an integer. -/
inductive Numeral.Denotes : Numeral → Option Int → Prop
  | natural (ds : List Char) :
      Denotes ⟨false, ds.map digitValue, [], none⟩ (some (Nat.ofDigitChars 10 ds 0))
  | negative {ds : List Char} (positive : 0 < Nat.ofDigitChars 10 ds 0) :
      Denotes ⟨true, ds.map digitValue, [], none⟩ (some (-Nat.ofDigitChars 10 ds 0))
  | negativeZero : Denotes ⟨true, [0], [], none⟩ none
  | other {n : Numeral} (further : n.isWhole = false) : Denotes n none

theorem unsignedNumeral_read (negative : Bool) (whole : WholePart s ds t)
    (fractional : FractionPart t fraction u) (exponential : ExponentPart u exponent rest)
    (stops : Stops rest) : ∃ e, e.isSome = exponent ∧ unsignedNumeral atEnd negative s =
      .read ⟨negative, ds.map digitValue, fraction.map digitValue, e⟩ rest := by
  have point := noFraction_exponent exponential stops
  obtain ⟨e, read, present⟩ := exponentPart_read atEnd exponential stops
  refine ⟨e, present, ?_⟩
  rw [unsignedNumeral, wholePart_read atEnd whole (noDigit_fraction fractional point)]
  simp only [Outcome.bind, fractionPart_read atEnd fractional point, read]

/-- Without fraction and exponent. -/
theorem unsignedNumeral_whole (negative : Bool) (whole : WholePart s ds rest) (stops : Stops rest) :
    unsignedNumeral atEnd negative s = .read ⟨negative, ds.map digitValue, [], none⟩ rest := by
  obtain ⟨e, absent, read⟩ :=
    unsignedNumeral_read atEnd negative whole (.absent rest) (.absent rest) stops
  cases e with
  | none => exact read
  | some e => cases absent

theorem Grammar.WholePart.start (whole : WholePart s ds rest) :
    ∃ c tail, s = c :: tail ∧ c.isDigit = true := by
  cases whole with
  | zero => exact ⟨_, _, rfl, rfl⟩
  | digits rest digit => exact ⟨_, _, rfl, digit _ List.mem_cons_self⟩

theorem numeral_unsigned (whole : WholePart s ds rest) :
    numeral atEnd s = unsignedNumeral atEnd false s := by
  obtain ⟨c, tail, rfl, digit⟩ := whole.start
  rw [numeral.eq_def]
  split
  · next same =>
    obtain ⟨rfl, -⟩ := List.cons.inj same
    cases digit
  · rfl

theorem le_ofDigitChars (cs : List Char) (n : Nat) : n ≤ Nat.ofDigitChars 10 cs n := by
  induction cs generalizing n with
  | nil => exact Nat.le_refl n
  | cons c cs ih =>
    rw [Nat.ofDigitChars_cons]
    have := ih (10 * n + (c.toNat - '0'.toNat))
    omega

theorem digit_positive {c : Char} (digit : c.isDigit = true) (nonzero : c ≠ '0') :
    0 < c.toNat - '0'.toNat := by
  have low : 48 ≤ c.toNat := (Char.isDigit_iff_toNat.mp digit).1
  have other : c.toNat ≠ 48 := fun same => nonzero (Char.toNat_inj.mp same)
  have : '0'.toNat = 48 := rfl
  omega

/-- Only a zero alone denotes zero. -/
theorem Grammar.WholePart.positive (whole : WholePart s ds rest) (nonzero : ds ≠ ['0']) :
    0 < Nat.ofDigitChars 10 ds 0 := by
  cases whole with
  | zero => exact absurd rfl nonzero
  | @digits d ds rest digit other =>
    rw [Nat.ofDigitChars_cons]
    have := le_ofDigitChars ds (10 * 0 + (d.toNat - '0'.toNat))
    have := digit_positive (digit d List.mem_cons_self) other
    omega

/-- A number is read as a numeral that denotes the same. -/
theorem numeral_read (number : NumberText s x rest) (stops : Stops rest) :
    ∃ n, numeral atEnd s = .read n rest ∧ n.Denotes x := by
  cases number with
  | natural whole =>
    have unsigned := unsignedNumeral_whole atEnd false whole stops
    exact ⟨_, (numeral_unsigned atEnd whole).trans unsigned, .natural _⟩
  | negative whole nonzero =>
    exact ⟨_, unsignedNumeral_whole atEnd true whole stops, .negative (whole.positive nonzero)⟩
  | negativeZero =>
    exact ⟨_, unsignedNumeral_whole atEnd true (.zero rest) stops, .negativeZero⟩
  | @other sign s t u ds fraction _ exponent signed whole fractional exponential further =>
    have read (negative : Bool) :=
      unsignedNumeral_read atEnd negative whole fractional exponential stops
    have notWhole {negative : Bool} {digits : List Nat} {e : Option Exponent}
        (present : e.isSome = exponent) :
        Numeral.isWhole ⟨negative, digits, fraction.map digitValue, e⟩ = false := by
      rcases further with nonempty | rfl
      · simp [Numeral.isWhole, nonempty]
      · simp [Numeral.isWhole, present]
    rcases signed with rfl | rfl
    · obtain ⟨e, present, read⟩ := read false
      exact ⟨_, (numeral_unsigned atEnd whole).trans read, .other (notWhole present)⟩
    · obtain ⟨e, present, read⟩ := read true
      exact ⟨_, read, .other (notWhole present)⟩

/-! ## Values -/

namespace Significand

/-- Once a digit did not fit, no later one is gathered. -/
theorem foldl_full (digits : List Nat) (a : Significand) (full : a.full = true) :
    (digits.foldl wholeDigit a).full = true := by
  induction digits generalizing a with
  | nil => exact full
  | cons d digits ih => exact ih _ (by simp [wholeDigit, full])

/-- Digits are gathered in full exactly if their number fits. -/
theorem foldl_wholeDigit (ds : List Char) (n : Nat) (before : n < 0x10000000000000000) :
    if Nat.ofDigitChars 10 ds n < 0x10000000000000000 then
      (ds.map digitValue).foldl wholeDigit ⟨n, 0, false⟩ = ⟨Nat.ofDigitChars 10 ds n, 0, false⟩
    else ((ds.map digitValue).foldl wholeDigit ⟨n, 0, false⟩).full = true := by
  induction ds generalizing n with
  | nil => simp [before]
  | cons c ds ih =>
    have bound := le_ofDigitChars ds (10 * n + (c.toNat - '0'.toNat))
    rw [Nat.ofDigitChars_cons, List.map_cons, List.foldl_cons]
    by_cases fits : 10 * n + (c.toNat - '0'.toNat) < 0x10000000000000000
    · have next : wholeDigit ⟨n, 0, false⟩ (digitValue c) =
          ⟨10 * n + (c.toNat - '0'.toNat), 0, false⟩ := by
        rw [wholeDigit, digitValue, Nat.mul_comm n 10, if_neg (by simpa using fits)]
      rw [next]
      exact ih _ fits
    · rw [if_neg (by omega)]
      refine foldl_full _ _ ?_
      rw [wholeDigit, digitValue, Nat.mul_comm n 10, if_pos (.inr (Nat.not_lt.mp fits))]

end Significand

namespace Numeral

/-- A value is an integer exactly if no digit was dropped and a sign leaves it one. -/
theorem number_integer (n : Numeral) (i : Int) : n.number = .ok (.integer i) ↔
    (n.isWhole ∧ ¬ n.wholeSignificand.full ∧
      (n.negative → 0 < n.significand.digits ∧ n.significand.digits ≤ 0x8000000000000000)) ∧
    i = if n.negative then -(n.significand.digits : Int) else n.significand.digits := by
  by_cases exact : n.isWhole ∧ ¬ n.wholeSignificand.full ∧
      (n.negative → 0 < n.significand.digits ∧ n.significand.digits ≤ 0x8000000000000000)
  · unfold number
    rw [if_pos exact, eq_comm (a := i)]
    simp only [Except.ok.injEq, Number.integer.injEq, and_iff_right exact]
  · refine iff_of_false (fun same => ?_) fun ⟨whole, _⟩ => exact whole
    -- Every other value is a binary fraction, whichever way the power of ten is found.
    unfold number at same
    rw [if_neg exact] at same
    simp only at same
    split at same
    · split at same <;> cases same
    · split at same
      · split at same <;> cases same
      · split at same <;> cases same

theorem number_whole (negative : Bool) (ds : List Char) (i : Int) :
    number ⟨negative, ds.map digitValue, [], none⟩ = .ok (.integer i) ↔
      Nat.ofDigitChars 10 ds 0 < 0x10000000000000000 ∧
      (negative → 0 < Nat.ofDigitChars 10 ds 0 ∧ Nat.ofDigitChars 10 ds 0 ≤ 0x8000000000000000) ∧
      i = if negative then -(Nat.ofDigitChars 10 ds 0 : Int) else Nat.ofDigitChars 10 ds 0 := by
  have gathered := Significand.foldl_wholeDigit ds 0 (by decide)
  rw [number_integer]
  split at gathered
  · next fits => simp [isWhole, significand, wholeSignificand, gathered, fits]
  · next large => simp [wholeSignificand, gathered, large]

theorem number_iff {n : Numeral} (denotes : n.Denotes x) (i : Int) : n.number = .ok (.integer i) ↔
    x = some i ∧ -0x8000000000000000 ≤ i ∧ i < 0x10000000000000000 := by
  cases denotes with
  | natural ds =>
    simp only [number_whole, Option.some.injEq, Bool.false_eq_true, if_false, false_implies,
      true_and]
    omega
  | negative positive =>
    simp only [number_whole, Option.some.injEq, if_true, true_implies]
    omega
  | negativeZero => simp [number_integer, significand, wholeSignificand, Significand.wholeDigit]
  | other further => simp [number_integer, further]

end Numeral

/-! ## Numbers -/

theorem number_read_iff (text : NumberText s x rest) (stops : Stops rest) {i : Int}
    {mid : List Char} : number s = .read (.integer i) mid ↔
      mid = rest ∧ x = some i ∧ -0x8000000000000000 ≤ i ∧ i < 0x10000000000000000 := by
  obtain ⟨n, read, denotes⟩ := numeral_read .endInValue text stops
  rw [number, read, ← n.number_iff denotes i]
  simp only [Outcome.bind]
  split
  · next found => simp [found, and_comm, eq_comm]
  · next failed => simp [failed]

theorem Grammar.NumberText.start (text : NumberText s x rest) :
    ∃ c tail, s = c :: tail ∧ startsNumber c = true := by
  have unsigned {s t ds : List Char} (whole : WholePart s ds t) :
      ∃ c tail, s = c :: tail ∧ startsNumber c = true := by
    obtain ⟨c, tail, rfl, digit⟩ := whole.start
    exact ⟨c, tail, rfl, by simp [startsNumber, digit]⟩
  cases text with
  | natural whole => exact unsigned whole
  | negative | negativeZero => exact ⟨'-', _, rfl, rfl⟩
  | other signed whole =>
    rcases signed with rfl | rfl
    · exact unsigned whole
    · exact ⟨'-', _, rfl, rfl⟩

/-- What a number starts with is neither a blank nor the end of a list. -/
theorem startsNumber_solid {c : Char} (numeric : startsNumber c = true) :
    isSpace c = false ∧ c ≠ ']' := by
  constructor
  · cases blank : isSpace c with
    | false => rfl
    | true =>
      simp [isSpace] at blank
      rcases blank with ((rfl | rfl) | rfl) | rfl <;> exact absurd numeric (by decide)
  · rintro rfl
    exact absurd numeric (by decide)

/-! ## Integers of a range -/

theorem valueStart_blank {reader : Reader α} {c : Char} (blank : Blank s (c :: t))
    (solid : isSpace c = false) : valueStart reader s = reader (c :: t) := by
  rw [valueStart, skipSpace_eq_cons.mpr ⟨blank, solid⟩]

theorem integerWithin_blank (low high : Int) (kind : String) {c : Char} (blank : Blank s (c :: t))
    (solid : isSpace c = false) : integerWithin low high kind s =
      if startsNumber c then
        ((number (c :: t)).bind fun n rest =>
          match n with
          | .integer i =>
            if low ≤ i ∧ i ≤ high then .read i rest else .unfit (.outOfRange i kind) rest
          | .real x => .unfit (.wrongType (Number.real x).found kind) rest).located
      else wrongType kind (c :: t) :=
  valueStart_blank blank solid

end Clearance.Json
