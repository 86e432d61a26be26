import Clearance.Json.Skip
import Clearance.Proofs.Json.Bracketed
import Clearance.Proofs.Json.Numeral

/-! A value of any shape is passed over, as deep as its brackets stand inside each other. A value
takes no more than two steps for each of its characters, so that the steps suffice whatever stands
behind it. -/
namespace Clearance.Json

open Grammar

variable {s t rest : List Char} {x : Option Int} {depth : Nat}

/-! ## What a value starts with -/

theorem Grammar.AnyValue.cases (value : AnyValue depth s x rest) :
    Scalar s x rest ∨ x = none ∧ ∃ t, s = '[' :: t ∨ s = '\x7b' :: t := by
  cases depth with
  | zero => exact .inl value
  | succ depth =>
    rcases value with scalar | ⟨rfl, ⟨t, xs, rfl, -⟩ | ⟨t, xs, rfl, -⟩⟩
    · exact .inl scalar
    · exact .inr ⟨rfl, t, .inl rfl⟩
    · exact .inr ⟨rfl, t, .inr rfl⟩

/-- A value is a number exactly if it starts like one. -/
theorem Grammar.AnyValue.starts (value : AnyValue depth s x rest) :
    ∃ c t, s = c :: t ∧ isSpace c = false ∧ c ≠ ']' ∧
      if startsNumber c then NumberText s x rest else x = none := by
  rcases value.cases with scalar | ⟨rfl, t, rfl | rfl⟩
  · cases scalar with
    | number number =>
      obtain ⟨c, t, rfl, numeric⟩ := number.start
      obtain ⟨solid, notEnd⟩ := startsNumber_solid numeric
      exact ⟨c, t, rfl, solid, notEnd, by rwa [if_pos numeric]⟩
    | _ => exact ⟨_, _, rfl, rfl, by decide, rfl⟩
  · exact ⟨_, _, rfl, rfl, by decide, rfl⟩
  · exact ⟨_, _, rfl, rfl, by decide, rfl⟩

theorem Grammar.Scalar.starts (scalar : Scalar s x rest) :
    ∃ c t, s = c :: t ∧ isSpace c = false ∧ c ≠ '[' ∧ c ≠ '\x7b' := by
  cases scalar with
  | number number =>
    obtain ⟨c, t, rfl, numeric⟩ := number.start
    refine ⟨c, t, rfl, (startsNumber_solid numeric).1, ?_, ?_⟩
    · rintro rfl
      exact absurd numeric (by decide)
    · rintro rfl
      exact absurd numeric (by decide)
  | _ => exact ⟨_, _, rfl, rfl, by decide, by decide⟩

/-! ## What a value takes -/

theorem Grammar.AnyChars.shorter (chars : AnyChars s rest) : rest.length < s.length := by
  induction chars with
  | quote rest => exact Nat.lt_succ_self _
  | letter known tail ih => simp only [List.length_cons]; omega
  | code code tail ih =>
    have := hexWord_shorter (hexWord_iff.mpr code)
    simp only [List.length_cons]
    omega
  | plain _ _ _ tail ih => exact Nat.lt_succ_of_lt ih

theorem Grammar.WholePart.shorter {ds : List Char} (whole : WholePart s ds rest) :
    rest.length < s.length := by
  cases whole with
  | zero => exact Nat.lt_succ_self _
  | digits rest => simp only [List.length_append, List.length_cons]; omega

theorem Grammar.FractionPart.length_le {ds : List Char} (fractional : FractionPart s ds rest) :
    rest.length ≤ s.length := by
  cases fractional with
  | absent => exact Nat.le_refl _
  | present rest => simp only [List.length_append, List.length_cons]; omega

theorem Grammar.ExponentPart.length_le {present : Bool}
    (exponential : ExponentPart s present rest) : rest.length ≤ s.length := by
  cases exponential with
  | absent => exact Nat.le_refl _
  | present rest => simp only [List.length_append, List.length_cons]; omega

theorem Grammar.NumberText.shorter (number : NumberText s x rest) : rest.length < s.length := by
  cases number with
  | natural whole => exact whole.shorter
  | negative whole => exact Nat.lt_succ_of_lt whole.shorter
  | negativeZero => simp only [List.length_cons]; omega
  | other signed whole fractional exponential =>
    have := whole.shorter
    have := fractional.length_le
    have := exponential.length_le
    simp only [List.length_append]
    omega

theorem Grammar.Scalar.shorter (scalar : Scalar s x rest) : rest.length < s.length := by
  cases scalar with
  | string chars => exact Nat.lt_succ_of_lt chars.shorter
  | number number => exact number.shorter
  | _ => simp only [List.length_cons]; omega

theorem anyMember_shortens {value : List Char → α → List Char → Prop} (shorter : Shortens value) :
    Shortens (AnyMember value) := by
  rintro _ _ _ ⟨named, before, behind, content⟩
  have := named.shorter
  have := before.length_le
  have := behind.length_le
  have := shorter content
  simp only [List.length_cons] at *
  omega

theorem anyValue_shortens (depth : Nat) :
    Shortens fun s (x : Option Int) rest => AnyValue depth s x rest := by
  induction depth with
  | zero => exact fun _ _ _ scalar => scalar.shorter
  | succ depth ih =>
    rintro s x rest (scalar | ⟨rfl, ⟨t, xs, rfl, entries⟩ | ⟨t, xs, rfl, entries⟩⟩)
    · exact scalar.shorter
    · exact Nat.lt_succ_of_lt (entries_shorter ih entries)
    · exact Nat.lt_succ_of_lt (entries_shorter (anyMember_shortens ih) entries)

/-! ## Strings and other values without brackets -/

theorem skipString_escaped (skipped : skipEscaped s = .read () t) :
    skipString ('\\' :: s) = skipString t := by
  rw [skipString]
  split <;> simp_all

theorem skipString_read (chars : AnyChars s rest) : skipString s = .read () rest := by
  induction chars with
  | quote rest => rw [skipString]
  | @letter e c s rest known tail ih =>
    have short := shortEscape_iff.mpr known
    have skipped : skipEscaped (e :: s) = .read () s := by
      unfold skipEscaped
      split
      · next same => cases same
      · next same =>
        obtain ⟨rfl, rfl⟩ := List.cons.inj same
        simp [shortEscape?] at short
      · next same =>
        obtain ⟨rfl, rfl⟩ := List.cons.inj same
        simp [short]
    rw [skipString_escaped skipped, ih]
  | @code s t rest n code tail ih =>
    have skipped : skipEscaped ('u' :: s) = .read () t :=
      Outcome.map_eq_read_iff.mpr ⟨n, hexWord_iff.mpr code, rfl⟩
    rw [skipString_escaped skipped, ih]
  | @plain c s rest notQuote notBackslash visible tail ih =>
    rw [skipString.eq_def]
    split
    case h_4 same =>
      obtain ⟨rfl, rfl⟩ := List.cons.inj same
      rw [if_neg (Nat.not_lt.mpr visible), ih]
    all_goals simp_all

theorem skipScalar_read (scalar : Scalar s x rest) (stops : Stops rest) :
    skipScalar s = .read () rest := by
  cases scalar with
  | string chars => exact skipString_read chars
  | number number =>
    obtain ⟨n, read, -⟩ := numeral_read .invalidNumber number stops
    obtain ⟨c, t, rfl, numeric⟩ := number.start
    unfold skipScalar
    split
    case h_6 same =>
      obtain ⟨rfl, rfl⟩ := List.cons.inj same
      rw [if_pos numeric, read]
      rfl
    all_goals simp_all [startsNumber]
  | _ => rfl

/-! ## Single steps -/

/-- What is due behind a value inside the open brackets, if anything is. -/
def behindValue (opened : List Bracket) : Option (Due × List Bracket) :=
  if opened.isEmpty then none else some (.commaOrEnd, opened)

/-- Goes on with what is due. -/
def resume (n : Nat) : Option (Due × List Bracket) → Reader Unit
  | none => .pure ()
  | some (due, opened) => skipSteps n due opened

theorem skipSteps_succ (n : Nat) (due : Due) (opened : List Bracket) (s : List Char) :
    skipSteps (n + 1) due opened s = (skipStep due opened s).bind (resume n) := by
  rw [skipSteps]
  congr
  funext next
  cases next <;> rfl

def Bracket.opening : Bracket → Char
  | .list => '['
  | .object => '\x7b'

/-- What stands between brackets of a kind. -/
def Bracket.Entry (value : List Char → Option Int → List Char → Prop) :
    Bracket → List Char → Option Int → List Char → Prop
  | .list => value
  | .object => AnyMember value

section Steps
variable (opened : List Bracket) (b : Bracket)

theorem skipStep_scalar (blank : Blank s t) (scalar : Scalar t x rest) (stops : Stops rest) :
    skipStep .value opened s = .read (behindValue opened) rest := by
  obtain ⟨c, u, rfl, solid, list, object⟩ := scalar.starts
  rw [skipStep, skipSpace_eq_cons.mpr ⟨blank, solid⟩]
  split
  · next same => exact absurd (List.cons.inj same).1 list
  · next same => exact absurd (List.cons.inj same).1 object
  · rw [skipScalar_read scalar stops]
    rfl

theorem skipStep_opening (blank : Blank s (b.opening :: t)) :
    skipStep .value opened s = .read (some (.firstOrEnd, b :: opened)) t := by
  have solid : isSpace b.opening = false := by cases b <;> decide
  rw [skipStep, skipSpace_eq_cons.mpr ⟨blank, solid⟩]
  cases b <;> rfl

theorem skipStep_closing {due : Due} (inside : due ≠ .value) (blank : Blank s (b.closing :: t)) :
    skipStep due (b :: opened) s = .read (behindValue opened) t := by
  have solid : isSpace b.closing = false := by cases b <;> decide
  cases due with
  | value => exact absurd rfl inside
  | _ => simp [skipStep, skipSpace_eq_cons.mpr ⟨blank, solid⟩, behindValue]

theorem skipToValue_read (blank : Blank s t) (entry : b.Entry (AnyValue depth) t x rest) :
    ∃ mid start, skipToValue b s = .read () mid ∧ mid.length ≤ s.length ∧ Blank mid start ∧
      AnyValue depth start x rest := by
  cases b with
  | list => exact ⟨s, t, rfl, Nat.le_refl _, blank, entry⟩
  | object =>
    obtain ⟨named, before, behind, content⟩ := entry
    refine ⟨_, _, ?_, ?_, behind, content⟩
    · simp [skipToValue, skipKey, skipSpace_eq_cons.mpr ⟨blank, rfl⟩, skipString_read named,
        Outcome.bind, skipSpace_eq_cons.mpr ⟨before, rfl⟩]
    · have := blank.length_le
      have := named.shorter
      have := before.length_le
      simp only [List.length_cons] at *
      omega

theorem Bracket.Entry.starts {b : Bracket} (entry : b.Entry (AnyValue depth) t x rest) :
    ∃ c u, t = c :: u ∧ isSpace c = false ∧ c ≠ b.closing := by
  cases b with
  | list =>
    obtain ⟨c, u, rfl, solid, notEnd, -⟩ := AnyValue.starts entry
    exact ⟨c, u, rfl, solid, notEnd⟩
  | object =>
    obtain ⟨-, -, -, -⟩ := entry
    exact ⟨_, _, rfl, rfl, by decide⟩

theorem skipStep_first (blank : Blank s t) (entry : b.Entry (AnyValue depth) t x rest) :
    ∃ mid start, skipStep .firstOrEnd (b :: opened) s = .read (some (.value, b :: opened)) mid ∧
      mid.length ≤ s.length ∧ Blank mid start ∧ AnyValue depth start x rest := by
  obtain ⟨c, u, rfl, solid, notEnd⟩ := entry.starts
  obtain ⟨mid, start, read, shorter, behind, value⟩ := skipToValue_read b (.none _) entry
  refine ⟨mid, start, ?_, Nat.le_trans shorter blank.length_le, behind, value⟩
  simp [skipStep, skipSpace_eq_cons.mpr ⟨blank, solid⟩, notEnd, read, Outcome.map, Outcome.bind]

theorem skipStep_comma {comma : List Char} (before : Blank s (',' :: comma)) (behind : Blank comma t)
    (entry : b.Entry (AnyValue depth) t x rest) :
    ∃ mid start, skipStep .commaOrEnd (b :: opened) s = .read (some (.value, b :: opened)) mid ∧
      mid.length < s.length ∧ Blank mid start ∧ AnyValue depth start x rest := by
  have notEnd : ',' ≠ b.closing := by cases b <;> decide
  obtain ⟨mid, start, read, shorter, blank, value⟩ := skipToValue_read b behind entry
  refine ⟨mid, start, ?_, Nat.lt_of_le_of_lt shorter (Nat.lt_of_succ_le before.length_le), blank, value⟩
  simp [skipStep, skipSpace_eq_cons.mpr ⟨before, rfl⟩, notEnd, read, Outcome.map, Outcome.bind]

end Steps

/-! ## Whole values -/

/-- A number of steps passes over a part of a text, whatever is to follow. -/
def Passes (k : Nat) (due : Due) (opened : List Bracket) (s : List Char)
    (next : Option (Due × List Bracket)) (rest : List Char) : Prop :=
  ∀ n, skipSteps (n + k) due opened s = resume n next rest

section Passes
variable {k l : Nat} {due behind : Due} {opened outer : List Bracket}
  {next : Option (Due × List Bracket)}

theorem Passes.one (step : skipStep due opened s = .read next rest) :
    Passes 1 due opened s next rest := by
  intro n
  rw [skipSteps_succ, step]
  rfl

theorem Passes.trans (first : Passes k due opened s (some (behind, outer)) t)
    (second : Passes l behind outer t next rest) : Passes (l + k) due opened s next rest := by
  intro n
  rw [← Nat.add_assoc, first (n + l)]
  exact second n

theorem stops_blank {c : Char} (blank : Blank s (c :: t)) (stop : c ∈ [',', ']', '\x7d']) :
    Stops s := by
  have harmless : ([',', ']', '\x7d'] ++ [' ', '\t', '\n', '\r']).all fun c =>
      !c.isDigit && c != '.' && c != 'e' && c != 'E' := by decide
  have stops (d : Char) (listed : d ∈ [',', ']', '\x7d'] ++ [' ', '\t', '\n', '\r']) :
      d.isDigit = false ∧ d ≠ '.' ∧ d ≠ 'e' ∧ d ≠ 'E' := by
    simpa [and_assoc] using List.all_eq_true.mp harmless d listed
  intro d head
  cases blank with
  | none => exact Option.some.inj head ▸ stops c (List.mem_append_left _ stop)
  | more space => exact Option.some.inj head ▸ stops _ (List.mem_append_right _ space)

/-- What stands behind an entry does not prolong it. -/
theorem stops_further {α : Type} {entry : List Char → α → List Char → Prop} {as : List α}
    (b : Bracket) (further : Further b.closing entry s as rest) : Stops s := by
  cases further with
  | done blank => exact stops_blank blank (by cases b <;> decide)
  | next before => exact stops_blank before (by decide)

/-- Every value of a depth is passed over, by no more steps than two for each of its characters. -/
def Passed (depth : Nat) : Prop :=
  ∀ ⦃opened s start x rest⦄, Blank s start → AnyValue depth start x rest → Stops rest →
    ∃ k, k + 2 * rest.length ≤ 2 * s.length ∧
      Passes k .value opened s (behindValue opened) rest

variable (passed : Passed depth) (b : Bracket) {xs : List (Option Int)}
include passed

theorem passes_further (further : Further b.closing (b.Entry (AnyValue depth)) s xs rest) :
    ∃ k, k + 2 * rest.length ≤ 2 * s.length ∧
      Passes k .commaOrEnd (b :: opened) s (behindValue opened) rest := by
  induction further with
  | done blank =>
    refine ⟨1, ?_, .one (skipStep_closing opened b (by decide) blank)⟩
    have := blank.length_le
    simp only [List.length_cons] at this
    omega
  | next before between entry tail ih =>
    obtain ⟨mid, start, step, shorter, blank, value⟩ := skipStep_comma opened b before between entry
    obtain ⟨k, few, head⟩ := passed blank value (stops_further b tail)
    obtain ⟨l, fewer, later⟩ := ih
    exact ⟨l + (k + 1), by omega, (Passes.one step).trans head |>.trans later⟩

theorem passes_entries (entries : Entries b.closing (b.Entry (AnyValue depth)) s xs rest) :
    ∃ k, k + 2 * rest.length ≤ 2 * s.length + 1 ∧
      Passes k .firstOrEnd (b :: opened) s (behindValue opened) rest := by
  cases entries with
  | done blank =>
    refine ⟨1, ?_, .one (skipStep_closing opened b (by decide) blank)⟩
    have := blank.length_le
    simp only [List.length_cons] at this
    omega
  | first before entry tail =>
    obtain ⟨mid, start, step, shorter, blank, value⟩ := skipStep_first opened b before entry
    obtain ⟨k, few, head⟩ := passed blank value (stops_further b tail)
    obtain ⟨l, fewer, later⟩ := passes_further passed b tail
    exact ⟨l + (k + 1), by omega, (Passes.one step).trans head |>.trans later⟩

theorem passes_bracket (blank : Blank s (b.opening :: t))
    (entries : Entries b.closing (b.Entry (AnyValue depth)) t xs rest) :
    ∃ k, k + 2 * rest.length ≤ 2 * s.length ∧
      Passes k .value opened s (behindValue opened) rest := by
  obtain ⟨k, few, inside⟩ := passes_entries passed b entries
  refine ⟨k + 1, ?_, (Passes.one (skipStep_opening opened b blank)).trans inside⟩
  have := blank.length_le
  simp only [List.length_cons] at this
  omega

omit passed in
theorem passed_any (depth : Nat) : Passed depth := by
  have scalar {opened : List Bracket} {s start rest : List Char} {x : Option Int}
      (blank : Blank s start) (scalar : Scalar start x rest) (stops : Stops rest) :
      ∃ k, k + 2 * rest.length ≤ 2 * s.length ∧
        Passes k .value opened s (behindValue opened) rest := by
    refine ⟨1, ?_, .one (skipStep_scalar opened blank scalar stops)⟩
    have := blank.length_le
    have := scalar.shorter
    omega
  induction depth with
  | zero => exact fun _ _ _ _ _ blank value stops => scalar blank value stops
  | succ depth ih =>
    rintro opened s start x rest blank
      (single | ⟨rfl, ⟨t, xs, rfl, entries⟩ | ⟨t, xs, rfl, entries⟩⟩) stops
    · exact scalar blank single stops
    · exact passes_bracket ih .list blank entries
    · exact passes_bracket ih .object blank entries

end Passes

/-- A value is passed over up to its end, whatever its shape and its depth. -/
theorem skip_read (blank : Blank s t) (value : AnyValue depth t x rest) (stops : Stops rest) :
    skip s = .read () rest := by
  obtain ⟨k, few, passes⟩ : ∃ k, k + 2 * rest.length ≤ 2 * s.length ∧
      Passes k .value [] s none rest := passed_any depth blank value stops
  obtain ⟨n, enough⟩ := Nat.exists_eq_add_of_le (Nat.le_trans (Nat.le_add_right k _) few)
  have steps : 2 * s.length + 1 = n + 1 + k := by omega
  rw [skip, steps, passes]
  rfl

end Clearance.Json
