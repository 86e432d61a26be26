import Clearance.Proofs.Json.Skip

/-! Records whose fields are integers. A reader of one either gives what the grammar finds at its
place, or nothing; from the readers of the fields follows what a whole object of any members makes
of a draft. -/
namespace Clearance.Json

open Grammar

variable {α β σ : Type} {s t rest : List Char} {x : Option Int} {depth : Nat}

/-! ## What a reader gives -/

/-- An outcome is a value up to the given rest exactly for the due values, and for no other rest. If
no value is due, none is read. -/
def Outcome.Gives (o : Outcome α) (due : α → Prop) (rest : List Char) : Prop :=
  ∀ a mid, o = .read a mid ↔ mid = rest ∧ due a

namespace Outcome.Gives

variable {o : Outcome α} {due : α → Prop}

theorem bind (gives : o.Gives due t) {next : α → Reader β} {follows : α → β → Prop}
    (later : ∀ a, due a → (next a t).Gives (follows a) rest) :
    (o.bind next).Gives (fun b => ∃ a, due a ∧ follows a b) rest := by
  intro b mid
  rw [bind_eq_read_iff]
  constructor
  · rintro ⟨a, u, read, done⟩
    obtain ⟨rfl, isDue⟩ := (gives a u).mp read
    obtain ⟨rfl, behind⟩ := (later a isDue b mid).mp done
    exact ⟨rfl, a, isDue, behind⟩
  · rintro ⟨rfl, a, isDue, behind⟩
    exact ⟨a, t, (gives a t).mpr ⟨rfl, isDue⟩, (later a isDue b mid).mpr ⟨rfl, behind⟩⟩

theorem map (gives : o.Gives due rest) (f : α → β) :
    (o.map f).Gives (fun b => ∃ a, due a ∧ f a = b) rest :=
  gives.bind fun a _ b mid => by simp [and_comm, eq_comm]

theorem congr {other : α → Prop} (gives : o.Gives due rest) (same : ∀ a, due a ↔ other a) :
    o.Gives other rest := by
  simpa only [Gives, same] using gives

end Outcome.Gives

theorem gives_pure (a : α) (rest : List Char) : (Outcome.read a rest).Gives (a = ·) rest := by
  intro b mid
  simp [and_comm, eq_comm]

/-! ## Integers -/

theorem integerWithin_gives {low high : Int} (kind : String) (wordLow : -0x8000000000000000 ≤ low)
    (wordHigh : high < 0x10000000000000000) (blank : Blank s t) (value : AnyValue depth t x rest)
    (stops : Stops rest) :
    (integerWithin low high kind s).Gives (fun i => x = some i ∧ low ≤ i ∧ i ≤ high) rest := by
  obtain ⟨c, u, rfl, solid, -, sort⟩ := value.starts
  intro i mid
  rw [integerWithin_blank low high kind blank solid]
  split at sort
  · next numeric =>
    rw [if_pos numeric, Outcome.located_eq_read_iff]
    refine Outcome.bind_eq_read_iff.trans ?_
    constructor
    · rintro ⟨n, u, read, fits⟩
      split at fits
      · obtain ⟨rfl, rfl, -⟩ := (number_read_iff sort stops).mp read
        split at fits
        · next bounds =>
          obtain ⟨rfl, rfl⟩ := Outcome.read.inj fits
          exact ⟨rfl, rfl, bounds⟩
        · cases fits
      · cases fits
    · rintro ⟨rfl, rfl, bounds⟩
      refine ⟨.integer i, mid, (number_read_iff sort stops).mpr ⟨rfl, rfl, ?_, ?_⟩, if_pos bounds⟩
      · exact Int.le_trans wordLow bounds.1
      · exact Int.lt_of_le_of_lt bounds.2 wordHigh
  · next other =>
    rw [if_neg other, sort]
    simp [wrongType_ne_read]

/-- The values of a type stand for the integers of a range, each for one of them. -/
structure Represents (toInt : α → Int) (ofInt : Int → α) (low high : Int) : Prop where
  bounds : ∀ v, low ≤ toInt v ∧ toInt v ≤ high
  ofInt_toInt : ∀ v, ofInt (toInt v) = v
  toInt_ofInt : ∀ i, low ≤ i → i ≤ high → toInt (ofInt i) = i

namespace Represents

theorem int64 : Represents Int64.toInt Int64.ofInt (-0x8000000000000000) 0x7FFFFFFFFFFFFFFF where
  bounds v := ⟨v.le_toInt, Int.le_sub_one_of_lt v.toInt_lt⟩
  ofInt_toInt := Int64.ofInt_toInt
  toInt_ofInt _ low high := Int64.toInt_ofInt_of_le low (Int.lt_of_le_sub_one high)

theorem uint64 : Represents (fun v : UInt64 => (v.toNat : Int)) (fun n => UInt64.ofNat n.toNat)
    0 0xFFFFFFFFFFFFFFFF where
  bounds v := by
    have := v.toNat_lt
    omega
  ofInt_toInt v := by simp
  toInt_ofInt i low high := by
    have small : i.toNat < 0x10000000000000000 := by omega
    rw [UInt64.toNat_ofNat_of_lt' small, Int.toNat_of_nonneg low]

theorem uint32 : Represents (fun v : UInt32 => (v.toNat : Int)) (fun n => UInt32.ofNat n.toNat)
    0 0xFFFFFFFF where
  bounds v := by
    have := v.toNat_lt
    omega
  ofInt_toInt v := by simp
  toInt_ofInt i low high := by
    have small : i.toNat < 0x100000000 := by omega
    rw [UInt32.toNat_ofNat_of_lt' small, Int.toNat_of_nonneg low]

variable {toInt : α → Int} {ofInt : Int → α} {low high : Int}
  (represents : Represents toInt ofInt low high)
include represents

theorem injective : Function.Injective toInt := fun v w same => by
  rw [← represents.ofInt_toInt v, same, represents.ofInt_toInt w]

theorem range (n : Int) : (∃ v, toInt v = n) ↔ low ≤ n ∧ n ≤ high := by
  constructor
  · rintro ⟨v, rfl⟩
    exact represents.bounds v
  · rintro ⟨least, greatest⟩
    exact ⟨ofInt n, represents.toInt_ofInt n least greatest⟩

/-- The value is read whose integer is written. -/
theorem gives (kind : String) (word : -0x8000000000000000 ≤ low ∧ high < 0x10000000000000000)
    (blank : Blank s t) (value : AnyValue depth t x rest) (stops : Stops rest) :
    ((integerWithin low high kind).map ofInt s).Gives (fun v => x = some (toInt v)) rest := by
  refine ((integerWithin_gives kind word.1 word.2 blank value stops).map ofInt).congr fun v => ?_
  constructor
  · rintro ⟨i, ⟨rfl, fits⟩, rfl⟩
    rw [represents.toInt_ofInt i fits.1 fits.2]
  · rintro rfl
    exact ⟨toInt v, ⟨rfl, represents.bounds v⟩, represents.ofInt_toInt v⟩

end Represents

section Types
variable (blank : Blank s t) (value : AnyValue depth t x rest) (stops : Stops rest)
include blank value stops

theorem int64_gives : (int64 s).Gives (fun v => x = some v.toInt) rest :=
  Represents.int64.gives "i64" (by decide) blank value stops

theorem uint64_gives : (uint64 s).Gives (fun v => x = some (v.toNat : Int)) rest :=
  Represents.uint64.gives "u64" (by decide) blank value stops

theorem uint32_gives : (uint32 s).Gives (fun v => x = some (v.toNat : Int)) rest :=
  Represents.uint32.gives "u32" (by decide) blank value stops

end Types

/-! ## Members -/

/-- A state is taken along by members, one after another, each of which may take it to another. -/
inductive Path (takes : σ → String × α → σ → Prop) : σ → List (String × α) → σ → Prop
  | nil (state : σ) : Path takes state [] state
  | cons {state next last : σ} {m : String × α} {ms : List (String × α)} (step : takes state m next)
      (later : Path takes next ms last) : Path takes state (m :: ms) last

theorem Path.nil_iff {takes : σ → String × α → σ → Prop} {state last : σ} :
    Path takes state [] last ↔ last = state := by
  constructor
  · rintro ⟨⟩
    rfl
  · rintro rfl
    exact .nil last

theorem Path.cons_iff {takes : σ → String × α → σ → Prop} {state last : σ} {m : String × α}
    {ms : List (String × α)} :
    Path takes state (m :: ms) last ↔ ∃ next, takes state m next ∧ Path takes next ms last := by
  constructor
  · rintro (_ | ⟨step, later⟩)
    exact ⟨_, step, later⟩
  · rintro ⟨next, step, later⟩
    exact .cons step later

/-- What a reader of members does with any value behind a key. -/
def Takes (member : σ → String → Reader σ) (takes : σ → String × Option Int → σ → Prop)
    (depth : Nat) : Prop :=
  ∀ state key ⦃s colon start x rest⦄, Blank s (':' :: colon) → Blank colon start →
    AnyValue depth start x rest → Stops rest → (member state key s).Gives (takes state (key, x)) rest

section Members
variable {member : σ → String → Reader σ} {takes : σ → String × Option Int → σ → Prop}
  {ms : List (String × Option Int)}

theorem member_gives (reads : Takes member takes depth) {m : String × Option Int}
    (entry : Member (AnyValue depth) s m t) (stops : Stops t) :
    ∃ u, Quoted s m.1 u ∧ ∀ state, (member state m.1 u).Gives (takes state m) t := by
  obtain ⟨named, before, behind, content⟩ := entry
  exact ⟨_, named, fun state => reads state _ before behind content stops⟩

theorem members_none (n : Nat) (first : Bool) (state : σ) (blank : Blank s ('\x7d' :: rest)) :
    (members member (n + 1) first state s).Gives (Path takes state []) ('\x7d' :: rest) := by
  have ended : nextKey first s = .read none ('\x7d' :: rest) := nextKey_none.mpr ⟨rest, rfl, blank⟩
  rw [members, ended]
  exact (gives_pure state _).congr fun last => by rw [Path.nil_iff, eq_comm]

theorem members_some {m : String × Option Int} {u : List Char} {first : Bool} {n : Nat} {state : σ}
    (key : nextKey first s = .read (some m.1) u)
    (gives : (member state m.1 u).Gives (takes state m) t)
    (later : ∀ next, (members member n false next t).Gives (Path takes next ms) rest) :
    (members member (n + 1) first state s).Gives (Path takes state (m :: ms)) rest := by
  rw [members, key]
  exact (gives.bind fun next _ => later next).congr fun last => Path.cons_iff.symm

variable (reads : Takes member takes depth)
include reads

/-- The induction is on the members, of which there are no more than the text has characters. -/
theorem members_further (further : Further '\x7d' (Member (AnyValue depth)) s ms rest) (n : Nat)
    (enough : s.length < n) (state : σ) :
    (members member n false state s).Gives (Path takes state ms) ('\x7d' :: rest) := by
  induction further generalizing n state with
  | done blank =>
    obtain ⟨n, rfl⟩ := Nat.exists_eq_add_one.mpr (Nat.zero_lt_of_lt enough)
    exact members_none n false state blank
  | next before behind entry tail ih =>
    obtain ⟨n, rfl⟩ := Nat.exists_eq_add_one.mpr (Nat.zero_lt_of_lt enough)
    obtain ⟨u, named, gives⟩ := member_gives reads entry (stops_further .object tail)
    have fewer := rest_shorter_behind_comma (member_shortens (anyValue_shortens depth)) before
      behind entry
    exact members_some (nextKey_some_later.mpr ⟨_, _, before, behind, named⟩) (gives state)
      fun next => ih n (by omega) next

theorem members_entries (entries : Entries '\x7d' (Member (AnyValue depth)) s ms rest) (n : Nat)
    (enough : s.length < n) (state : σ) :
    (members member n true state s).Gives (Path takes state ms) ('\x7d' :: rest) := by
  obtain ⟨n, rfl⟩ := Nat.exists_eq_add_one.mpr (Nat.zero_lt_of_lt enough)
  cases entries with
  | done blank => exact members_none n true state blank
  | first before entry tail =>
    obtain ⟨u, named, gives⟩ := member_gives reads entry (stops_further .object tail)
    have fewer := rest_shorter (member_shortens (anyValue_shortens depth)) before entry
    exact members_some (nextKey_some_first.mpr ⟨_, before, named⟩) (gives state)
      fun next => members_further reads tail n (by omega) next

end Members

/-! ## Records -/

section Records
variable {shape : RecordShape σ α} {draft : σ} {key : String} {colon start : List Char}

theorem afterColon_gives {reader : Reader α} {due : α → Prop} (before : Blank s (':' :: colon))
    (gives : (reader colon).Gives due rest) : (afterColon reader s).Gives due rest := by
  have passed : Json.colon s = .read () colon := colon_iff.mpr before
  rw [afterColon, passed]
  exact gives

/-- A member that is not known leaves the draft as it is. -/
theorem RecordShape.member_unknown (unknown : shape.find? key = none) (before : Blank s (':' :: colon))
    (behind : Blank colon start) (value : AnyValue depth start x rest) (stops : Stops rest) :
    (shape.member draft key s).Gives (draft = ·) rest := by
  have passed : (skip colon).Gives (fun _ => True) rest := by
    intro a mid
    rw [skip_read behind value stops]
    simp [eq_comm]
  have gives := (afterColon_gives before passed).map fun _ => draft
  rw [member, unknown]
  exact gives.congr fun next => by simp

/-- A member that is known fills its field, unless the field is set. -/
theorem RecordShape.member_known {field : Field σ} {due : σ → Prop}
    (known : shape.find? key = some field) (before : Blank s (':' :: colon))
    (gives : (field.fill draft colon).Gives due rest) :
    (shape.member draft key s).Gives (fun next => field.isSet draft = false ∧ due next) rest := by
  cases set : field.isSet draft with
  | true =>
    have refused : shape.member draft key s = .unfit (.repeatedField key) s := by
      rw [member, known]
      exact congrFun (if_pos set) s
    intro next mid
    simp [refused]
  | false =>
    have opened : shape.member draft key s = afterColon (field.fill draft) s := by
      rw [member, known]
      exact congrFun (if_neg (ne_true_of_eq_false set)) s
    rw [opened]
    exact (afterColon_gives before gives).congr fun next => by simp

theorem RecordShape.finished_gives (draft : σ) (s : List Char) :
    (shape.finished draft s).Gives (fun a => shape.finish draft = .ok a) s := by
  intro a mid
  rw [finished]
  cases shape.finish draft <;> simp [and_comm, eq_comm]

/-- A text with an object in it decodes to what a path over its members leads to. -/
theorem RecordShape.decode_object {takes : σ → String × Option Int → σ → Prop}
    (reads : Takes shape.member takes depth) {text : String} {ms : List (String × Option Int)}
    (document : Whole (ObjectOf (AnyValue depth)) text ms) {a : α} :
    decode shape.reader text = .ok a ↔
      ∃ draft, Path takes shape.blank ms draft ∧ shape.finish draft = .ok a := by
  obtain ⟨_, rest, blank, @⟨inside, _, _, entries⟩, ended⟩ := document
  have opened : shape.reader text.toList = closedObject
      ((members shape.member (inside.length + 1) true shape.blank inside).bind shape.finished) :=
    valueStart_blank blank rfl
  have contents := (members_entries reads entries _ (Nat.lt_succ_self _) shape.blank).bind
    fun draft _ => shape.finished_gives draft _
  rw [decode_read, opened]
  constructor
  · rintro ⟨left, read, -⟩
    obtain ⟨mid, read, -⟩ := closed_read.mp read
    exact ((contents a mid).mp read).2
  · intro found
    exact ⟨rest, closed_read.mpr ⟨_, (contents a _).mpr ⟨rfl, found⟩, objectEnd_bracket rest⟩, ended⟩

end Records

end Clearance.Json
