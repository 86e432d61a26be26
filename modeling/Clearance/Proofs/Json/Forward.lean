import Clearance.Proofs.Json.Bracketed

/-! Readers go forward: what one leaves is an end of what it was given. A record takes at least its
bracket, so that a list of records is read as the grammar of lists has it, item by item. -/
namespace Clearance.Json

open Grammar

variable {α β σ : Type}

/-- What is left behind a value is an end of the text that was given. -/
def Reader.Forward (reader : Reader α) : Prop :=
  ∀ ⦃s a rest⦄, reader s = .read a rest → rest <:+ s

theorem read_suffix {s t rest : List Char} {a b : α} (read : Outcome.read a s = .read b rest)
    (behind : s <:+ t) : rest <:+ t :=
  (Outcome.read.inj read).2 ▸ behind

/-! ## Combinations -/

section Combinations
variable {reader : Reader α}

theorem Reader.Forward.bind {next : α → Reader β} (first : reader.Forward)
    (second : ∀ a, (next a).Forward) : Reader.Forward fun s => (reader s).bind next := by
  intro s b rest read
  obtain ⟨a, mid, head, tail⟩ := bind_eq_read read
  exact (second a tail).trans (first head)

theorem Reader.Forward.map (forward : reader.Forward) (f : α → β) :
    Reader.Forward fun s => (reader s).map f :=
  forward.bind fun _ _ _ _ read => read_suffix read List.suffix_rfl

theorem Reader.Forward.located (forward : reader.Forward) :
    Reader.Forward fun s => (reader s).located :=
  fun _ _ _ read => forward (Outcome.located_eq_read_iff.mp read)

theorem skipSpace_suffix (s : List Char) : skipSpace s <:+ s := List.dropWhile_suffix _

theorem Reader.Forward.valueStart (forward : reader.Forward) :
    Reader.Forward (valueStart reader) := by
  intro s a rest read
  obtain ⟨c, t, blank, solid, read⟩ := valueStart_iff.mp read
  have start : c :: t <:+ s := (skipSpace_eq_cons.mpr ⟨blank, solid⟩) ▸ skipSpace_suffix s
  exact (forward read).trans start

end Combinations

/-! ## Single values -/

theorem word_forward (letters : List Char) : Reader.Forward (word letters) := by
  intro s a rest read
  induction letters generalizing s with
  | nil => exact read_suffix read List.suffix_rfl
  | cons e es ih =>
    unfold word at read
    split at read
    · next same => cases same
    · cases read
    · next same =>
      obtain ⟨rfl, rfl⟩ := List.cons.inj same
      split at read
      · exact (ih read).trans (List.suffix_cons _ _)
      · cases read

theorem Grammar.HexCode.suffix {s rest : List Char} {n : Nat} (code : HexCode s n rest) :
    rest <:+ s := by
  obtain ⟨_, -, -, -, -⟩ := code
  exact ⟨[_, _, _, _], rfl⟩

theorem Grammar.Escape.suffix {s rest : List Char} {c : Char} (escape : Escape s c rest) :
    rest <:+ s := by
  cases escape with
  | letter => exact List.suffix_cons _ _
  | code code => exact code.suffix.trans (List.suffix_cons _ _)
  | pair first _ second _ _ =>
    have low := second.suffix.trans ((List.suffix_cons 'u' _).trans (List.suffix_cons '\\' _))
    exact (low.trans first.suffix).trans (List.suffix_cons _ _)

theorem Grammar.Chars.suffix {s cs rest : List Char} (chars : Chars s cs rest) : rest <:+ s := by
  induction chars with
  | quote => exact List.suffix_cons _ _
  | escape head _ ih => exact (ih.trans head.suffix).trans (List.suffix_cons _ _)
  | plain _ _ _ _ ih => exact ih.trans (List.suffix_cons _ _)

theorem stringTail_forward : Reader.Forward (stringTail []) := by
  intro s text rest read
  cases quoted_iff.mpr read with
  | quoted chars => exact chars.suffix

theorem string_forward : Reader.Forward string := by
  refine Reader.Forward.valueStart fun s text rest read => ?_
  split at read
  · exact (stringTail_forward read).trans (List.suffix_cons _ _)
  · exact absurd read (wrongType_ne_read _ _)

theorem checkedString_forward (check : String → Except String α) :
    Reader.Forward (checkedString check) := by
  refine string_forward.bind fun text s a rest read => ?_
  split at read
  · exact read_suffix read List.suffix_rfl
  · cases read

/-! ## Numbers -/

theorem afterDigits_suffix (s : List Char) : afterDigits s <:+ s := List.dropWhile_suffix _

theorem exponentDigits_forward (atEnd : Cause) (negative : Bool) :
    Reader.Forward (exponentDigits atEnd negative) := by
  intro s a rest read
  unfold exponentDigits at read
  split at read
  · cases read
  · split at read
    · exact read_suffix read (afterDigits_suffix _)
    · cases read

theorem exponentPart_forward (atEnd : Cause) : Reader.Forward (exponentPart atEnd) := by
  intro s a rest read
  have digits (negative : Bool) {t : List Char}
      (read : (exponentDigits atEnd negative t).map some = .read a rest) : rest <:+ t :=
    (exponentDigits_forward atEnd negative).map some read
  unfold exponentPart at read
  split at read
  case h_7 => exact read_suffix read List.suffix_rfl
  case h_5 | h_6 => exact (digits _ read).trans (List.suffix_cons _ _)
  all_goals exact (digits _ read).trans ((List.suffix_cons _ _).trans (List.suffix_cons _ _))

theorem fractionPart_forward (atEnd : Cause) : Reader.Forward (fractionPart atEnd) := by
  intro s a rest read
  unfold fractionPart at read
  split at read
  · cases read
  · split at read
    · exact read_suffix read ((afterDigits_suffix _).trans (List.suffix_cons _ _))
    · cases read
  · exact read_suffix read List.suffix_rfl

theorem wholePart_forward (atEnd : Cause) : Reader.Forward (wholePart atEnd) := by
  intro s a rest read
  unfold wholePart at read
  split at read
  · cases read
  · split at read
    · cases read
    · exact read_suffix read (List.suffix_cons _ _)
  · split at read
    · exact read_suffix read (afterDigits_suffix _)
    · cases read

theorem unsignedNumeral_forward (atEnd : Cause) (negative : Bool) :
    Reader.Forward (unsignedNumeral atEnd negative) :=
  (wholePart_forward atEnd).bind fun _ => (fractionPart_forward atEnd).bind fun _ =>
    (exponentPart_forward atEnd).map _

theorem numeral_forward (atEnd : Cause) : Reader.Forward (numeral atEnd) := by
  intro s a rest read
  unfold numeral at read
  split at read
  · exact (unsignedNumeral_forward _ _ read).trans (List.suffix_cons _ _)
  · exact unsignedNumeral_forward _ _ read

theorem number_forward : Reader.Forward number := by
  refine (numeral_forward .endInValue).bind fun n s a rest read => ?_
  split at read
  · exact read_suffix read List.suffix_rfl
  · cases read

theorem integerWithin_forward (low high : Int) (kind : String) :
    Reader.Forward (integerWithin low high kind) := by
  refine Reader.Forward.valueStart fun s i rest read => ?_
  split at read
  · split at read
    · refine number_forward.bind (fun n t i rest read => ?_) (Outcome.located_eq_read_iff.mp read)
      split at read
      · split at read
        · exact read_suffix read List.suffix_rfl
        · cases read
      · cases read
    · exact absurd read (wrongType_ne_read _ _)
  · exact absurd read (wrongType_ne_read _ _)

/-! ## Values that are passed over -/

theorem skipEscaped_forward : Reader.Forward skipEscaped := by
  intro s a rest read
  unfold skipEscaped at read
  split at read
  · cases read
  · obtain ⟨n, coded, -⟩ := Outcome.map_eq_read_iff.mp read
    exact (hexWord_iff.mp coded).suffix.trans (List.suffix_cons _ _)
  · split at read
    · exact read_suffix read (List.suffix_cons _ _)
    · cases read

theorem skipString_forward : Reader.Forward skipString := by
  intro s a rest read
  fun_induction skipString s with
  | case1 => cases read
  | case2 t => exact read_suffix read (List.suffix_cons _ _)
  | case3 t _ u escaped ih =>
    exact (ih read).trans ((skipEscaped_forward escaped).trans (List.suffix_cons _ _))
  | case4 => cases read
  | case5 => cases read
  | case6 => cases read
  | case7 c t _ _ _ ih => exact (ih read).trans (List.suffix_cons _ _)

/-- What stands behind a character that is met behind blanks. -/
theorem rest_suffix {s rest : List Char} {c : Char} (stopped : skipSpace s = c :: rest) :
    rest <:+ s :=
  (List.suffix_cons c rest).trans (stopped ▸ skipSpace_suffix s)

theorem colon_forward : Reader.Forward colon := by
  intro s a rest read
  exact rest_suffix (skipSpace_eq_cons.mpr ⟨colon_iff.mp read, rfl⟩)

theorem skipKey_forward : Reader.Forward skipKey := by
  intro s a rest read
  unfold skipKey at read
  split at read
  · next t stopped =>
    obtain ⟨_, mid, passed, read⟩ := bind_eq_read read
    have behind := (skipString_forward passed).trans (rest_suffix stopped)
    split at read
    · next u stopped =>
      obtain ⟨-, rfl⟩ := Outcome.read.inj read
      exact (rest_suffix stopped).trans behind
    all_goals cases read
  all_goals cases read

theorem skipToValue_forward (innermost : Bracket) : Reader.Forward (skipToValue innermost) := by
  cases innermost with
  | list => exact fun _ _ _ read => read_suffix read List.suffix_rfl
  | object => exact skipKey_forward

theorem skipScalar_forward : Reader.Forward skipScalar := by
  intro s a rest read
  unfold skipScalar at read
  split at read
  · cases read
  · exact (word_forward _ read).trans (List.suffix_cons _ _)
  · exact (word_forward _ read).trans (List.suffix_cons _ _)
  · exact (word_forward _ read).trans (List.suffix_cons _ _)
  · exact (skipString_forward read).trans (List.suffix_cons _ _)
  · split at read
    · exact (numeral_forward _).map (fun _ => ()) read
    · cases read

theorem skipStep_forward (due : Due) (opened : List Bracket) :
    Reader.Forward (skipStep due opened) := by
  intro s a rest read
  unfold skipStep at read
  split at read
  · split at read
    · next t stopped => exact read_suffix read (rest_suffix stopped)
    · next t stopped => exact read_suffix read (rest_suffix stopped)
    · exact (skipScalar_forward.map _ read).trans (skipSpace_suffix s)
  · exact read_suffix read List.suffix_rfl
  · next innermost outer _ =>
    split at read
    · cases read
    · next c t stopped =>
      have here : c :: t <:+ s := stopped ▸ skipSpace_suffix s
      have behind : t <:+ s := rest_suffix stopped
      split at read
      · exact read_suffix read behind
      · split at read
        · exact ((skipToValue_forward innermost).map _ read).trans here
        · split at read
          · exact ((skipToValue_forward innermost).map _ read).trans behind
          · cases read

theorem skipSteps_forward (n : Nat) (due : Due) (opened : List Bracket) :
    Reader.Forward (skipSteps n due opened) := by
  induction n generalizing due opened with
  | zero => exact fun _ _ _ read => read_suffix read List.suffix_rfl
  | succ n ih =>
    refine (skipStep_forward due opened).bind fun next s a rest read => ?_
    cases next with
    | none => exact read_suffix read List.suffix_rfl
    | some next => exact ih _ _ read

theorem skip_forward : Reader.Forward skip := fun _ _ _ read => skipSteps_forward _ _ _ read

/-! ## Brackets -/

theorem afterColon_forward {reader : Reader α} (forward : reader.Forward) :
    Reader.Forward (afterColon reader) :=
  colon_forward.bind fun _ => forward

theorem nextItem_forward (first : Bool) : Reader.Forward (nextItem first) := by
  intro s more rest read
  unfold nextItem at read
  split at read
  · cases read
  · next t stopped => exact read_suffix read (stopped ▸ skipSpace_suffix s)
  · next c t _ stopped =>
    split at read
    · exact read_suffix read (stopped ▸ skipSpace_suffix s)
    · split at read
      · split at read
        · cases read
        · cases read
        · exact read_suffix read ((skipSpace_suffix t).trans (rest_suffix stopped))
      · cases read

theorem nextKey_forward (first : Bool) : Reader.Forward (nextKey first) := by
  intro s key rest read
  have tail {t : List Char} (read : (stringTail [] t).map some = .read key rest) : rest <:+ t :=
    stringTail_forward.map some read
  unfold nextKey at read
  split at read
  · cases read
  · next t stopped => exact read_suffix read (stopped ▸ skipSpace_suffix s)
  · next c t _ stopped =>
    have behind : t <:+ s := rest_suffix stopped
    split at read
    · split at read
      · exact (tail read).trans behind
      · cases read
    · split at read
      · split at read
        · next u resumed => exact (tail read).trans ((rest_suffix resumed).trans behind)
        all_goals cases read
      · cases read

theorem members_forward {member : σ → String → Reader σ}
    (forward : ∀ state key, (member state key).Forward) (n : Nat) (first : Bool) (state : σ) :
    Reader.Forward (members member n first state) := by
  induction n generalizing first state with
  | zero => exact fun _ _ _ read => read_suffix read List.suffix_rfl
  | succ n ih =>
    refine (nextKey_forward first).bind fun key s last rest read => ?_
    cases key with
    | none => exact read_suffix read List.suffix_rfl
    | some key => exact (forward state key).bind (fun next => ih false next) read

theorem listEnd_forward : Reader.Forward listEnd := by
  intro s a rest read
  unfold listEnd at read
  split at read
  · next t stopped => exact read_suffix read (rest_suffix stopped)
  · split at read <;> cases read
  all_goals cases read

theorem objectEnd_forward : Reader.Forward objectEnd := by
  intro s a rest read
  unfold objectEnd at read
  split at read
  · next t stopped => exact read_suffix read (rest_suffix stopped)
  all_goals cases read

/-! ## Records -/

namespace RecordShape

variable {shape : RecordShape σ α}

/-- The readers of all fields go forward. -/
def Forward (shape : RecordShape σ α) : Prop :=
  ∀ field ∈ shape.fields, ∀ draft, (field.fill draft).Forward

theorem member_forward (forward : shape.Forward) (draft : σ) (key : String) :
    Reader.Forward (shape.member draft key) := by
  unfold member
  cases found : shape.find? key with
  | none => exact (afterColon_forward skip_forward).map _
  | some field =>
    by_cases filled : field.isSet draft = true
    · intro s next rest read
      simp [filled] at read
    · simp only [filled]
      exact afterColon_forward (forward field (List.mem_of_find?_eq_some found) draft)

theorem inOrder_forward (fields : List (Field σ))
    (forward : ∀ field ∈ fields, ∀ draft, (field.fill draft).Forward) (index : Nat) (draft : σ) :
    Reader.Forward (shape.inOrder fields index draft) := by
  induction fields generalizing index draft with
  | nil => exact fun _ _ _ read => read_suffix read List.suffix_rfl
  | cons field later ih =>
    have rest := fun index draft =>
      ih (fun other member => forward other (List.mem_cons_of_mem _ member)) index draft
    refine (nextItem_forward _).bind fun more s next left read => ?_
    split at read
    · exact (forward field List.mem_cons_self draft).bind (fun filled => rest _ filled) read
    · split at read
      · cases read
      · exact rest _ _ read

theorem finished_forward (draft : σ) : Reader.Forward (shape.finished draft) := by
  intro s a rest read
  unfold finished at read
  cases finish : shape.finish draft with
  | ok b =>
    rw [finish] at read
    exact read_suffix read List.suffix_rfl
  | error m =>
    rw [finish] at read
    cases read

/-- A record is read from its bracket on. -/
theorem reader_bracket (forward : shape.Forward) {s rest : List Char} {a : α}
    (read : shape.reader s = .read a rest) :
    ∃ c t, Blank s (c :: t) ∧ rest <:+ t := by
  obtain ⟨c, t, blank, -, read⟩ := valueStart_iff.mp read
  refine ⟨c, t, blank, ?_⟩
  split at read
  · next u same =>
    obtain ⟨rfl, rfl⟩ := List.cons.inj same
    obtain ⟨mid, contents, ended⟩ := closed_read.mp read
    have inside := (inOrder_forward shape.fields forward 0 shape.blank).bind finished_forward
      contents
    exact (listEnd_forward ended).trans inside
  · next u same =>
    obtain ⟨rfl, rfl⟩ := List.cons.inj same
    obtain ⟨mid, contents, ended⟩ := closed_read.mp read
    have inside := (members_forward (member_forward forward) (t.length + 1) true shape.blank).bind
      finished_forward contents
    exact (objectEnd_forward ended).trans inside
  · exact absurd read (wrongType_ne_read _ _)

end RecordShape

/-! ## Lists of records -/

/-- A value that a reader finds where a text starts, without blanks before it. -/
def Reader.Starts (reader : Reader α) (s : List Char) (a : α) (rest : List Char) : Prop :=
  reader s = .read a rest ∧ ∃ c t, s = c :: t ∧ isSpace c = false

/-- Wherever a record may stand in a text, its reader finds it behind any blanks. -/
theorem RecordShape.recognises {shape : RecordShape σ α} (forward : shape.Forward) :
    Recognises shape.reader shape.reader.Starts where
  read s a rest := by
    constructor
    · intro read
      obtain ⟨c, t, blank, solid, found⟩ := valueStart_iff.mp read
      exact ⟨c :: t, blank, valueStart_iff.mpr ⟨c, t, .none _, solid, found⟩, c, t, rfl, solid⟩
    · rintro ⟨start, before, read, -⟩
      obtain ⟨c, t, blank, solid, found⟩ := valueStart_iff.mp read
      exact valueStart_iff.mpr ⟨c, t, before.trans blank, solid, found⟩
  solid := by
    rintro _ a rest ⟨read, c, t, rfl, solid⟩
    refine ⟨c, t, rfl, solid, ?_⟩
    rintro rfl
    have refused : wrongType ("struct " ++ shape.kind) (']' :: t) = .read a rest := read
    exact wrongType_ne_read _ _ refused
  shorter := by
    rintro s a rest ⟨read, -⟩
    obtain ⟨c, t, blank, inside⟩ := reader_bracket forward read
    exact Nat.lt_of_lt_of_le (Nat.lt_succ_of_le inside.length_le) blank.length_le

end Clearance.Json
