import Clearance.Proofs.Json.QuotedText

/-! Lists and objects are read exactly as the grammar has them. Both are entries between brackets:
one induction over the entries serves the two loops, which differ in how a step finds its entry. -/
namespace Clearance.Json

open Grammar

variable {α β : Type} {s rest : List Char} {closing : Char}

/-- A reader gives back exactly what the grammar finds behind any blanks. A value takes at least one
character, and the first one is not taken for a blank or for the end of a list. -/
structure Recognises (reader : Reader α) (value : List Char → α → List Char → Prop) : Prop where
  read : ∀ s a rest, reader s = .read a rest ↔ ∃ start, Blank s start ∧ value start a rest
  solid : ∀ {s a rest}, value s a rest → ∃ c t, s = c :: t ∧ isSpace c = false ∧ c ≠ ']'
  shorter : ∀ {s a rest}, value s a rest → rest.length < s.length

/-! ## Single values -/

theorem valueStart_iff {reader : Reader α} {a : α} : valueStart reader s = .read a rest ↔
    ∃ c t, Blank s (c :: t) ∧ isSpace c = false ∧ reader (c :: t) = .read a rest := by
  constructor
  · intro read
    unfold valueStart at read
    split at read
    · cases read
    · next c t stopped =>
      obtain ⟨blank, solid⟩ := skipSpace_eq_cons.mp stopped
      exact ⟨c, t, blank, solid, read⟩
  · rintro ⟨c, t, blank, solid, read⟩
    rw [valueStart, skipSpace_eq_cons.mpr ⟨blank, solid⟩]
    exact read

theorem wrongType_ne_read (expected : String) (a : α) : wrongType expected s ≠ .read a rest := by
  intro read
  have seen := Outcome.located_eq_read_iff.mp read
  split at seen
  case h_5 | h_6 => cases seen
  case h_7 =>
    split at seen
    · obtain ⟨n, mid, -, failed⟩ := bind_eq_read seen
      cases failed
    · cases seen
  case h_8 => cases seen
  all_goals
    obtain ⟨_, mid, -, failed⟩ := bind_eq_read seen
    cases failed

theorem string_recognises : Recognises string Quoted where
  read s text rest := by
    refine valueStart_iff.trans ?_
    constructor
    · rintro ⟨c, t, blank, solid, read⟩
      split at read
      · next t same =>
        obtain ⟨rfl, rfl⟩ := List.cons.inj same
        exact ⟨_, blank, quoted_iff.mpr read⟩
      · exact absurd read (wrongType_ne_read _ _)
    · rintro ⟨_, blank, ⟨chars⟩⟩
      exact ⟨_, _, blank, rfl, quoted_iff.mp (.quoted chars)⟩
  solid := by
    rintro _ _ _ ⟨chars⟩
    exact ⟨_, _, rfl, rfl, by decide⟩
  shorter := by
    rintro _ _ _ ⟨chars⟩
    exact Nat.lt_succ_of_lt chars.length_lt

/-! ## What entries take -/

/-- An entry takes at least one character. -/
def Shortens (entry : List Char → α → List Char → Prop) : Prop :=
  ∀ ⦃s a rest⦄, entry s a rest → rest.length < s.length

section Shorter
variable {entry : List Char → α → List Char → Prop} (shorter : Shortens entry)
include shorter

theorem rest_shorter {start t : List Char} {a : α} (before : Blank s start) (head : entry start a t) :
    t.length < s.length :=
  Nat.lt_of_lt_of_le (shorter head) before.length_le

theorem rest_shorter_behind_comma {comma start t : List Char} {a : α}
    (before : Blank s (',' :: comma)) (behind : Blank comma start) (head : entry start a t) :
    t.length < s.length := by
  have := rest_shorter shorter behind head
  have := before.length_le
  simp only [List.length_cons] at this
  omega

theorem further_shorter {as : List α} (further : Further closing entry s as rest) :
    rest.length < s.length := by
  induction further with
  | done blank => exact Nat.lt_of_succ_le blank.length_le
  | next before behind head tail ih =>
    exact Nat.lt_trans ih (rest_shorter_behind_comma shorter before behind head)

theorem entries_shorter {as : List α} (entered : Entries closing entry s as rest) :
    rest.length < s.length := by
  cases entered with
  | done blank => exact Nat.lt_of_succ_le blank.length_le
  | first before head tail =>
    exact Nat.lt_trans (further_shorter shorter tail) (rest_shorter shorter before head)

end Shorter

/-! ## Entries -/

/-- Entries one after another, put before those that have been read. -/
def entries (step : Bool → Reader (Option α)) : Nat → Bool → List α → Reader (List α)
  | 0, _, done, s => .read done s
  | n + 1, first, done, s =>
    (step first s).bind fun found s =>
      match found with
      | some a => entries step n false (a :: done) s
      | none => .read done s

/-- What a step over entries does, by the grammar. -/
structure Punctuates (closing : Char) (entry : List Char → α → List Char → Prop)
    (step : Bool → Reader (Option α)) : Prop where
  ends : ∀ first s rest, step first s = .read none rest ↔ ∃ t, rest = closing :: t ∧ Blank s rest
  first : ∀ s a rest, step true s = .read (some a) rest ↔ ∃ start, Blank s start ∧ entry start a rest
  next : ∀ s a rest, step false s = .read (some a) rest ↔
    ∃ comma start, Blank s (',' :: comma) ∧ Blank comma start ∧ entry start a rest
  shorter : ∀ {s a rest}, entry s a rest → rest.length < s.length

theorem Punctuates.shortens {entry : List Char → α → List Char → Prop}
    {step : Bool → Reader (Option α)} (punctuates : Punctuates closing entry step) :
    Shortens entry :=
  fun _ _ _ => punctuates.shorter

section Entries
variable {entry : List Char → α → List Char → Prop} {step : Bool → Reader (Option α)}
  (punctuates : Punctuates closing entry step)
include punctuates

/-- The induction is on the number of steps, which the length of the text bounds. -/
theorem entries_further (n : Nat) (enough : s.length < n) (done out : List α) (mid : List Char) :
    entries step n false done s = .read out mid ↔ ∃ as t, mid = closing :: t ∧
      out = as.reverse ++ done ∧ Further closing entry s as t := by
  induction n generalizing s done with
  | zero => exact absurd enough (Nat.not_lt_zero _)
  | succ n ih =>
    refine Outcome.bind_eq_read_iff.trans ?_
    constructor
    · rintro ⟨found, t, stepped, later⟩
      cases found with
      | none =>
        obtain ⟨rfl, rfl⟩ := Outcome.read.inj later
        obtain ⟨t, rfl, blank⟩ := (punctuates.ends ..).mp stepped
        exact ⟨[], t, rfl, rfl, .done blank⟩
      | some a =>
        obtain ⟨comma, start, before, behind, head⟩ := (punctuates.next ..).mp stepped
        have fewer : t.length < n := Nat.lt_of_lt_of_le
          (rest_shorter_behind_comma punctuates.shortens before behind head) (Nat.le_of_lt_succ enough)
        obtain ⟨as, t, rfl, rfl, tail⟩ := (ih fewer _).mp later
        exact ⟨a :: as, t, rfl, by simp, .next before behind head tail⟩
    · rintro ⟨as, t, rfl, rfl, further⟩
      cases further with
      | done blank => exact ⟨none, _, (punctuates.ends ..).mpr ⟨t, rfl, blank⟩, rfl⟩
      | @next _ comma start mid _ a as before behind head tail =>
        have fewer : mid.length < n := Nat.lt_of_lt_of_le
          (rest_shorter_behind_comma punctuates.shortens before behind head) (Nat.le_of_lt_succ enough)
        exact ⟨some a, mid, (punctuates.next ..).mpr ⟨comma, start, before, behind, head⟩,
          (ih fewer _).mpr ⟨as, t, rfl, by simp, tail⟩⟩

theorem entries_iff (n : Nat) (enough : s.length < n) (out : List α) (mid : List Char) :
    entries step n true [] s = .read out mid ↔ ∃ as t, mid = closing :: t ∧
      out = as.reverse ∧ Entries closing entry s as t := by
  obtain ⟨n, rfl⟩ := Nat.exists_eq_add_one.mpr (Nat.zero_lt_of_lt enough)
  refine Outcome.bind_eq_read_iff.trans ?_
  constructor
  · rintro ⟨found, t, stepped, later⟩
    cases found with
    | none =>
      obtain ⟨rfl, rfl⟩ := Outcome.read.inj later
      obtain ⟨t, rfl, blank⟩ := (punctuates.ends ..).mp stepped
      exact ⟨[], t, rfl, rfl, .done blank⟩
    | some a =>
      obtain ⟨start, before, head⟩ := (punctuates.first ..).mp stepped
      have fewer : t.length < n := Nat.lt_of_lt_of_le
        (rest_shorter punctuates.shortens before head) (Nat.le_of_lt_succ enough)
      obtain ⟨as, t, rfl, rfl, tail⟩ := (entries_further punctuates n fewer ..).mp later
      exact ⟨a :: as, t, rfl, by simp, .first before head tail⟩
  · rintro ⟨as, t, rfl, rfl, entered⟩
    cases entered with
    | done blank => exact ⟨none, _, (punctuates.ends ..).mpr ⟨t, rfl, blank⟩, rfl⟩
    | @first start mid _ a as before head tail =>
      have fewer : mid.length < n := Nat.lt_of_lt_of_le
        (rest_shorter punctuates.shortens before head) (Nat.le_of_lt_succ enough)
      exact ⟨some a, mid, (punctuates.first ..).mpr ⟨start, before, head⟩,
        (entries_further punctuates n fewer ..).mpr ⟨as, t, rfl, by simp, tail⟩⟩

end Entries

/-! ## Lists -/

/-- A bracket is closed behind its contents. -/
theorem closed_read {ending : Reader Unit} {stop : List Char → List Char} {contents : Outcome α}
    {a : α} : closed ending stop contents = .read a rest ↔
      ∃ mid, contents = .read a mid ∧ ending mid = .read () rest := by
  cases contents with
  | read b mid =>
    refine Outcome.map_eq_read_iff.trans ?_
    constructor
    · rintro ⟨⟨⟩, ended, rfl⟩
      exact ⟨mid, rfl, ended⟩
    · rintro ⟨mid, same, ended⟩
      obtain ⟨rfl, rfl⟩ := Outcome.read.inj same
      exact ⟨(), ended, rfl⟩
  | broken f => simp [closed]
  | unfit m mid => simp [closed]

theorem listEnd_bracket (t : List Char) : listEnd (']' :: t) = .read () t := by
  simp [listEnd, skipSpace_eq_cons.mpr ⟨.none (']' :: t), rfl⟩]

/-- A step over the items of a list. -/
def listStep (item : Reader α) (first : Bool) : Reader (Option α) := fun s =>
  (nextItem first s).bind fun more s => if more then (item s).map some else .read none s

theorem items_eq_entries (item : Reader α) (n : Nat) (first : Bool) (done : List α)
    (s : List Char) :
    items item n first done s = (entries (listStep item) n first done s).map List.reverse := by
  induction n generalizing first done s with
  | zero => rfl
  | succ n ih =>
    rw [items, entries, listStep]
    cases nextItem first s with
    | read more s =>
      cases more with
      | false => rfl
      | true =>
        cases read : item s <;> simp [Outcome.bind, Outcome.map, read, ih]
    | broken f => rfl
    | unfit m s => rfl

theorem nextItem_none {first : Bool} : nextItem first s = .read false rest ↔
    ∃ t, rest = ']' :: t ∧ Blank s rest := by
  constructor
  · intro read
    unfold nextItem at read
    split at read
    · cases read
    · next t stopped =>
      obtain ⟨-, rfl⟩ := Outcome.read.inj read
      exact ⟨t, rfl, (skipSpace_eq_cons.mp stopped).1⟩
    · split at read
      · cases read
      · split at read
        · split at read <;> cases read
        · cases read
  · rintro ⟨t, rfl, blank⟩
    simp [nextItem, skipSpace_eq_cons.mpr ⟨blank, rfl⟩]

theorem nextItem_some_first : nextItem true s = .read true rest ↔
    ∃ c t, rest = c :: t ∧ Blank s rest ∧ isSpace c = false ∧ c ≠ ']' := by
  constructor
  · intro read
    unfold nextItem at read
    split at read
    · cases read
    · cases read
    · next c t notEnd stopped =>
      obtain ⟨-, rfl⟩ := Outcome.read.inj read
      obtain ⟨blank, solid⟩ := skipSpace_eq_cons.mp stopped
      exact ⟨c, t, rfl, blank, solid, notEnd⟩
  · rintro ⟨c, t, rfl, blank, solid, notEnd⟩
    simp [nextItem, skipSpace_eq_cons.mpr ⟨blank, solid⟩]

theorem nextItem_some_later : nextItem false s = .read true rest ↔
    ∃ comma c t, rest = c :: t ∧ Blank s (',' :: comma) ∧ Blank comma rest ∧ isSpace c = false ∧
      c ≠ ']' := by
  constructor
  · intro read
    unfold nextItem at read
    split at read
    · cases read
    · cases read
    · next c t notEnd stopped =>
      split at read
      · next same => cases same
      · split at read
        · next same =>
          subst same
          have before := (skipSpace_eq_cons.mp stopped).1
          split at read
          · cases read
          · cases read
          · next notNil notEnd =>
            obtain ⟨-, rfl⟩ := Outcome.read.inj read
            obtain ⟨c, u, resumed⟩ := List.exists_cons_of_ne_nil notNil
            obtain ⟨behind, solid⟩ := skipSpace_eq_cons.mp resumed
            exact ⟨t, c, u, resumed, before, resumed ▸ behind, solid,
              fun same => notEnd u (same ▸ resumed)⟩
        · cases read
  · rintro ⟨comma, c, t, rfl, before, behind, solid, notEnd⟩
    simp [nextItem, skipSpace_eq_cons.mpr ⟨before, rfl⟩, skipSpace_eq_cons.mpr ⟨behind, solid⟩]
    split <;> simp_all

theorem listStep_none {item : Reader α} {first : Bool} :
    listStep item first s = .read none rest ↔ nextItem first s = .read false rest := by
  refine Outcome.bind_eq_read_iff.trans ?_
  constructor
  · rintro ⟨more, mid, before, later⟩
    cases more with
    | false => exact (Outcome.read.inj later).2 ▸ before
    | true =>
      obtain ⟨a, -, mapped⟩ := Outcome.map_eq_read_iff.mp later
      cases mapped
  · intro before
    exact ⟨false, rest, before, rfl⟩

theorem listStep_some {item : Reader α} {first : Bool} {a : α} :
    listStep item first s = .read (some a) rest ↔
      ∃ mid, nextItem first s = .read true mid ∧ item mid = .read a rest := by
  refine Outcome.bind_eq_read_iff.trans ?_
  constructor
  · rintro ⟨more, mid, before, later⟩
    cases more with
    | false => cases later
    | true =>
      obtain ⟨_, read, same⟩ := Outcome.map_eq_read_iff.mp later
      exact ⟨mid, before, Option.some.inj same ▸ read⟩
  · rintro ⟨mid, before, read⟩
    exact ⟨true, mid, before, Outcome.map_eq_read_iff.mpr ⟨a, read, rfl⟩⟩

theorem Recognises.shortens {reader : Reader α} {value : List Char → α → List Char → Prop}
    (recognises : Recognises reader value) : Shortens value :=
  fun _ _ _ => recognises.shorter

section List
variable {item : Reader α} {value : List Char → α → List Char → Prop}
  (recognises : Recognises item value)
include recognises

theorem listStep_punctuates : Punctuates ']' value (listStep item) where
  ends _ _ _ := listStep_none.trans nextItem_none
  first s a rest := by
    refine listStep_some.trans ?_
    constructor
    · rintro ⟨mid, before, read⟩
      obtain ⟨c, t, rfl, blank, -⟩ := nextItem_some_first.mp before
      obtain ⟨start, more, found⟩ := (recognises.read ..).mp read
      exact ⟨start, blank.trans more, found⟩
    · rintro ⟨start, blank, found⟩
      -- The step stops at the first character of the item, which must not look like an end.
      obtain ⟨c, t, rfl, solid, notEnd⟩ := recognises.solid found
      exact ⟨_, nextItem_some_first.mpr ⟨c, t, rfl, blank, solid, notEnd⟩,
        (recognises.read ..).mpr ⟨_, .none _, found⟩⟩
  next s a rest := by
    refine listStep_some.trans ?_
    constructor
    · rintro ⟨mid, before, read⟩
      obtain ⟨comma, c, t, rfl, blank, behind, -⟩ := nextItem_some_later.mp before
      obtain ⟨start, more, found⟩ := (recognises.read ..).mp read
      exact ⟨comma, start, blank, behind.trans more, found⟩
    · rintro ⟨comma, start, blank, behind, found⟩
      obtain ⟨c, t, rfl, solid, notEnd⟩ := recognises.solid found
      exact ⟨_, nextItem_some_later.mpr ⟨comma, c, t, rfl, blank, behind, solid, notEnd⟩,
        (recognises.read ..).mpr ⟨_, .none _, found⟩⟩
  shorter := recognises.shorter

theorem items_iff {as : List α} {mid : List Char} :
    items item (s.length + 1) true [] s = .read as mid ↔
      ∃ t, mid = ']' :: t ∧ Entries ']' value s as t := by
  have recognised := entries_iff (listStep_punctuates recognises) (s.length + 1) (Nat.lt_succ_self _)
  -- The loop over items turns its list around at the end, the one over entries does not.
  rw [items_eq_entries]
  constructor
  · intro read
    obtain ⟨out, entered, reversed⟩ := Outcome.map_eq_read_iff.mp read
    obtain ⟨as, t, same, rfl, found⟩ := (recognised ..).mp entered
    rw [List.reverse_reverse] at reversed
    exact ⟨t, same, reversed ▸ found⟩
  · rintro ⟨t, same, found⟩
    exact Outcome.map_eq_read_iff.mpr
      ⟨as.reverse, (recognised ..).mpr ⟨as, t, same, rfl, found⟩, List.reverse_reverse as⟩

theorem list_recognises : Recognises (list item) (ListOf value) where
  read s as rest := by
    refine valueStart_iff.trans ?_
    constructor
    · rintro ⟨c, t, blank, -, read⟩
      split at read
      · next t same =>
        obtain ⟨rfl, rfl⟩ := List.cons.inj same
        obtain ⟨mid, read, ended⟩ := closed_read.mp read
        obtain ⟨u, rfl, found⟩ := (items_iff recognises).mp read
        rw [listEnd_bracket] at ended
        obtain ⟨-, rfl⟩ := Outcome.read.inj ended
        exact ⟨_, blank, .list found⟩
      · exact absurd read (wrongType_ne_read _ _)
    · rintro ⟨_, blank, ⟨found⟩⟩
      exact ⟨_, _, blank, rfl, closed_read.mpr
        ⟨_, (items_iff recognises).mpr ⟨rest, rfl, found⟩, listEnd_bracket rest⟩⟩
  solid := by
    rintro _ _ _ ⟨found⟩
    exact ⟨_, _, rfl, rfl, by decide⟩
  shorter := by
    rintro _ _ _ ⟨found⟩
    exact Nat.lt_succ_of_lt (entries_shorter recognises.shortens found)

end List

/-! ## Objects -/

/-- A step over the members of an object. -/
def memberStep (value : Reader α) (first : Bool) : Reader (Option (String × α)) := fun s =>
  (nextKey first s).bind fun key s =>
    match key with
    | some key => (afterColon value s).map fun a => some (key, a)
    | none => .read none s

theorem members_eq_entries (value : Reader α) (n : Nat) (first : Bool)
    (done : List (String × α)) (s : List Char) :
    members (fun done key => (afterColon value).map fun a => (key, a) :: done) n first done s =
      entries (memberStep value) n first done s := by
  induction n generalizing first done s with
  | zero => rfl
  | succ n ih =>
    rw [members, entries, memberStep]
    cases nextKey first s with
    | read key s =>
      cases key with
      | none => rfl
      | some key =>
        cases read : afterColon value s <;> simp [Outcome.bind, Outcome.map, Reader.map, read, ih]
    | broken f => rfl
    | unfit m s => rfl

theorem nextKey_none {first : Bool} : nextKey first s = .read none rest ↔
    ∃ t, rest = '\x7d' :: t ∧ Blank s rest := by
  constructor
  · intro read
    unfold nextKey at read
    split at read
    · cases read
    · next t stopped =>
      obtain ⟨-, rfl⟩ := Outcome.read.inj read
      exact ⟨t, rfl, (skipSpace_eq_cons.mp stopped).1⟩
    · split at read
      · split at read
        · obtain ⟨key, -, mapped⟩ := Outcome.map_eq_read_iff.mp read
          cases mapped
        · cases read
      · split at read
        · split at read
          · obtain ⟨key, -, mapped⟩ := Outcome.map_eq_read_iff.mp read
            cases mapped
          all_goals cases read
        · cases read
  · rintro ⟨t, rfl, blank⟩
    simp [nextKey, skipSpace_eq_cons.mpr ⟨blank, rfl⟩]

theorem named_iff {key : String} :
    (stringTail [] s).map some = .read (some key) rest ↔ Quoted ('"' :: s) key rest := by
  rw [Outcome.map_eq_read_iff]
  constructor
  · rintro ⟨_, read, same⟩
    exact quoted_iff.mpr (Option.some.inj same ▸ read)
  · intro quoted
    exact ⟨key, quoted_iff.mp quoted, rfl⟩

theorem nextKey_some_first {key : String} : nextKey true s = .read (some key) rest ↔
    ∃ start, Blank s start ∧ Quoted start key rest := by
  constructor
  · intro read
    unfold nextKey at read
    split at read
    · cases read
    · cases read
    · next c t notEnd stopped =>
      obtain ⟨blank, -⟩ := skipSpace_eq_cons.mp stopped
      rw [if_pos rfl] at read
      split at read
      · next same => exact ⟨_, blank, same ▸ named_iff.mp read⟩
      · cases read
  · rintro ⟨_, blank, ⟨chars⟩⟩
    simp [nextKey, skipSpace_eq_cons.mpr ⟨blank, rfl⟩, named_iff.mpr (.quoted chars)]

theorem nextKey_some_later {key : String} : nextKey false s = .read (some key) rest ↔
    ∃ comma start, Blank s (',' :: comma) ∧ Blank comma start ∧ Quoted start key rest := by
  constructor
  · intro read
    unfold nextKey at read
    split at read
    · cases read
    · cases read
    · next c t notEnd stopped =>
      obtain ⟨before, -⟩ := skipSpace_eq_cons.mp stopped
      rw [if_neg Bool.false_ne_true] at read
      split at read
      · next same =>
        split at read
        · next u resumed =>
          obtain ⟨behind, -⟩ := skipSpace_eq_cons.mp resumed
          exact ⟨_, _, same ▸ before, behind, named_iff.mp read⟩
        all_goals cases read
      · cases read
  · rintro ⟨comma, _, before, behind, ⟨chars⟩⟩
    simp [nextKey, skipSpace_eq_cons.mpr ⟨before, rfl⟩, skipSpace_eq_cons.mpr ⟨behind, rfl⟩,
      named_iff.mpr (.quoted chars)]

theorem colon_iff : colon s = .read () rest ↔ Blank s (':' :: rest) := by
  constructor
  · intro read
    unfold colon at read
    split at read
    · next t stopped =>
      obtain ⟨-, rfl⟩ := Outcome.read.inj read
      exact (skipSpace_eq_cons.mp stopped).1
    all_goals cases read
  · intro blank
    simp [colon, skipSpace_eq_cons.mpr ⟨blank, rfl⟩]

theorem afterColon_iff {reader : Reader α} {a : α} : afterColon reader s = .read a rest ↔
    ∃ mid, Blank s (':' :: mid) ∧ reader mid = .read a rest := by
  refine Outcome.bind_eq_read_iff.trans ?_
  constructor
  · rintro ⟨⟨⟩, mid, before, read⟩
    exact ⟨mid, colon_iff.mp before, read⟩
  · rintro ⟨mid, before, read⟩
    exact ⟨(), mid, colon_iff.mpr before, read⟩

theorem member_shortens {value : List Char → α → List Char → Prop} (shorter : Shortens value) :
    Shortens (Member value) := by
  rintro _ _ _ ⟨⟨chars⟩, before, behind, found⟩
  have := shorter found
  have := behind.length_le
  have := before.length_le
  have := chars.length_lt
  simp only [List.length_cons] at *
  omega

theorem memberStep_none {value : Reader α} {first : Bool} :
    memberStep value first s = .read none rest ↔ nextKey first s = .read none rest := by
  refine Outcome.bind_eq_read_iff.trans ?_
  constructor
  · rintro ⟨key, mid, before, later⟩
    cases key with
    | none => exact (Outcome.read.inj later).2 ▸ before
    | some key =>
      obtain ⟨a, -, mapped⟩ := Outcome.map_eq_read_iff.mp later
      cases mapped
  · intro before
    exact ⟨none, rest, before, rfl⟩

theorem memberStep_some {value : Reader α} {first : Bool} {key : String} {a : α} :
    memberStep value first s = .read (some (key, a)) rest ↔
      ∃ mid, nextKey first s = .read (some key) mid ∧ afterColon value mid = .read a rest := by
  refine Outcome.bind_eq_read_iff.trans ?_
  constructor
  · rintro ⟨key, mid, before, later⟩
    cases key with
    | none => cases later
    | some key =>
      obtain ⟨_, read, same⟩ := Outcome.map_eq_read_iff.mp later
      obtain ⟨rfl, rfl⟩ := Prod.mk.inj (Option.some.inj same)
      exact ⟨mid, before, read⟩
  · rintro ⟨mid, before, read⟩
    exact ⟨some key, mid, before, Outcome.map_eq_read_iff.mpr ⟨a, read, rfl⟩⟩

theorem objectEnd_bracket (t : List Char) : objectEnd ('\x7d' :: t) = .read () t := by
  simp [objectEnd, skipSpace_eq_cons.mpr ⟨.none ('\x7d' :: t), rfl⟩]

section Object
variable {reader : Reader α} {value : List Char → α → List Char → Prop}
  (recognises : Recognises reader value)
include recognises

/-- What stands behind a key. -/
theorem content_iff {a : α} : afterColon reader s = .read a rest ↔
    ∃ colon start, Blank s (':' :: colon) ∧ Blank colon start ∧ value start a rest := by
  refine afterColon_iff.trans ?_
  simp only [recognises.read, exists_and_left]

theorem memberStep_punctuates : Punctuates '\x7d' (Member value) (memberStep reader) where
  ends _ _ _ := memberStep_none.trans nextKey_none
  first s m rest := by
    obtain ⟨key, a⟩ := m
    refine memberStep_some.trans ?_
    constructor
    · rintro ⟨mid, before, read⟩
      obtain ⟨start, blank, named⟩ := nextKey_some_first.mp before
      obtain ⟨colon, content, before, behind, found⟩ := (content_iff recognises).mp read
      exact ⟨start, blank, .member named before behind found⟩
    · rintro ⟨start, blank, ⟨named, before, behind, found⟩⟩
      exact ⟨_, nextKey_some_first.mpr ⟨start, blank, named⟩,
        (content_iff recognises).mpr ⟨_, _, before, behind, found⟩⟩
  next s m rest := by
    obtain ⟨key, a⟩ := m
    refine memberStep_some.trans ?_
    constructor
    · rintro ⟨mid, before, read⟩
      obtain ⟨comma, start, blank, behind, named⟩ := nextKey_some_later.mp before
      obtain ⟨colon, content, colonBefore, colonBehind, found⟩ := (content_iff recognises).mp read
      exact ⟨comma, start, blank, behind, .member named colonBefore colonBehind found⟩
    · rintro ⟨comma, start, blank, behind, ⟨named, colonBefore, colonBehind, found⟩⟩
      exact ⟨_, nextKey_some_later.mpr ⟨comma, start, blank, behind, named⟩,
        (content_iff recognises).mpr ⟨_, _, colonBefore, colonBehind, found⟩⟩
  shorter member := member_shortens recognises.shortens member

theorem map_recognises : Recognises (map reader) (ObjectOf value) where
  read s ms rest := by
    refine Outcome.map_eq_read_iff.trans ?_
    constructor
    · rintro ⟨out, read, rfl⟩
      obtain ⟨c, t, blank, -, read⟩ := valueStart_iff.mp read
      split at read
      · next t same =>
        obtain ⟨rfl, rfl⟩ := List.cons.inj same
        obtain ⟨mid, read, ended⟩ := closed_read.mp read
        rw [members_eq_entries] at read
        obtain ⟨ms, u, rfl, rfl, found⟩ :=
          (entries_iff (memberStep_punctuates recognises) _ (Nat.lt_succ_self _) ..).mp read
        rw [objectEnd_bracket] at ended
        obtain ⟨-, rfl⟩ := Outcome.read.inj ended
        exact ⟨_, blank, .object ((List.reverse_reverse ms).symm ▸ found)⟩
      · exact absurd read (wrongType_ne_read _ _)
    · rintro ⟨_, blank, ⟨found⟩⟩
      refine ⟨ms.reverse, valueStart_iff.mpr ⟨_, _, blank, rfl, closed_read.mpr
        ⟨'\x7d' :: rest, ?_, objectEnd_bracket rest⟩⟩, List.reverse_reverse ms⟩
      rw [members_eq_entries]
      exact (entries_iff (memberStep_punctuates recognises) _ (Nat.lt_succ_self _) ..).mpr
        ⟨ms, rest, rfl, rfl, found⟩
  solid := by
    rintro _ _ _ ⟨found⟩
    exact ⟨_, _, rfl, rfl, by decide⟩
  shorter := by
    rintro _ _ _ ⟨found⟩
    exact Nat.lt_succ_of_lt (entries_shorter (memberStep_punctuates recognises).shortens found)

end Object

/-! ## Whole texts -/

theorem decode_read {reader : Reader α} {text : String} {a : α} : decode reader text = .ok a ↔
    ∃ rest, reader text.toList = .read a rest ∧ Blank rest [] := by
  constructor
  · intro decoded
    unfold decode at decoded
    split at decoded
    · next b rest read =>
      split at decoded
      · next ended =>
        obtain rfl := Except.ok.inj decoded
        exact ⟨rest, read, skipSpace_eq_nil.mp ended⟩
      · cases decoded
    all_goals cases decoded
  · rintro ⟨rest, read, ended⟩
    rw [decode, read]
    simp [skipSpace_eq_nil.mpr ended]

/-- A text decodes to a value exactly when it holds that value and nothing else. -/
theorem decode_iff {reader : Reader α} {value : List Char → α → List Char → Prop}
    (recognises : Recognises reader value) {text : String} {a : α} :
    decode reader text = .ok a ↔ Whole value text a := by
  rw [decode_read]
  constructor
  · rintro ⟨rest, read, ended⟩
    obtain ⟨start, blank, found⟩ := (recognises.read ..).mp read
    exact ⟨start, rest, blank, found, ended⟩
  · rintro ⟨start, rest, blank, found, ended⟩
    exact ⟨rest, (recognises.read ..).mpr ⟨start, blank, found⟩, ended⟩

theorem decode_map (reader : Reader α) (f : α → β) (text : String) :
    decode (reader.map f) text = (decode reader text).map f := by
  unfold decode Reader.map
  cases reader text.toList with
  | read a rest =>
    simp only [Outcome.map, Outcome.bind]
    split <;> rfl
  | broken fault => rfl
  | unfit m rest => rfl

end Clearance.Json
