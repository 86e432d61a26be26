import Clearance.Proofs.Fraud.Limits
import Clearance.Proofs.Json.Members
import Clearance.Proofs.Json.Number

/-! Documents of thresholds mean what they say. A document may name any of the fields, each of them
once, with an integer that its type can hold, and may have any other members. -/
namespace Clearance.Fraud.Limits

open Json (Path Takes Represents)
open Json.Grammar

/-! ## What a document says -/

/-- What stands in a document for a field, each time that it is listed: an integer, or another
value. -/
def written (field : String) (ms : List (String × Option Int)) : List (Option Int) :=
  (ms.filter (·.1 == field)).map Prod.snd

/-- A field that is listed once has the integer that is written for it, and an unlisted one its
default. -/
def Setting (ms : List (String × Option Int)) (field : String) (default value : Int) : Prop :=
  written field ms = [some value] ∨ written field ms = [] ∧ value = default

/-- The thresholds that the members of a document stand for. -/
def Says (ms : List (String × Option Int)) (l : Limits) : Prop :=
  let default : Limits := {}
  Setting ms "amount_limit" default.amountLimit.toInt l.amountLimit.toInt ∧
  Setting ms "velocity_window_secs" default.windowSeconds.toNat l.windowSeconds.toNat ∧
  Setting ms "velocity_threshold" default.threshold.toNat l.threshold.toNat

/-- A field, with the least and the greatest integer that it can hold. -/
structure Range where
  field : String
  least : Int
  greatest : Int

def ranges : List Range :=
  [⟨"amount_limit", -0x8000000000000000, 0x7FFFFFFFFFFFFFFF⟩,
    ⟨"velocity_window_secs", 0, 0xFFFFFFFFFFFFFFFF⟩, ⟨"velocity_threshold", 0, 0xFFFFFFFF⟩]

section Written
variable {field key : String} {x : Option Int} {ms : List (String × Option Int)}

theorem written_same : written field ((field, x) :: ms) = x :: written field ms := by
  simp [written]

theorem written_other (other : key ≠ field) :
    written field ((key, x) :: ms) = written field ms := by
  simp [written, other]

end Written

/-! ## What its reader does -/

/-- A member of a known name sets its field, if that is not set and can hold what is written. A
member of another name does nothing. -/
def Draft.Takes (d : Draft) (m : String × Option Int) (next : Draft) : Prop :=
  if m.1 = "amount_limit" then
    d.amountLimit = none ∧ ∃ v, m.2 = some v.toInt ∧ { d with amountLimit := some v } = next
  else if m.1 = "velocity_window_secs" then
    d.windowSeconds = none ∧
      ∃ v, m.2 = some (v.toNat : Int) ∧ { d with windowSeconds := some v } = next
  else if m.1 = "velocity_threshold" then
    d.threshold = none ∧ ∃ v, m.2 = some (v.toNat : Int) ∧ { d with threshold := some v } = next
  else d = next

theorem shape_takes (depth : Nat) : Takes shape.member Draft.Takes depth := by
  intro d key s colon start x rest before behind value stops
  by_cases amount : key = "amount_limit"
  · subst amount
    have gives := (Json.int64_gives behind value stops).map fun v => { d with amountLimit := some v }
    exact (Json.RecordShape.member_known rfl before gives).congr fun next => by simp [Draft.Takes]
  by_cases window : key = "velocity_window_secs"
  · subst window
    have gives :=
      (Json.uint64_gives behind value stops).map fun v => { d with windowSeconds := some v }
    exact (Json.RecordShape.member_known rfl before gives).congr fun next => by simp [Draft.Takes]
  by_cases threshold : key = "velocity_threshold"
  · subst threshold
    have gives := (Json.uint32_gives behind value stops).map fun v => { d with threshold := some v }
    exact (Json.RecordShape.member_known rfl before gives).congr fun next => by simp [Draft.Takes]
  · have unknown : shape.find? key = none := by
      simp [Json.RecordShape.find?, shape, Ne.symm amount, Ne.symm window, Ne.symm threshold]
    exact (Json.RecordShape.member_unknown unknown before behind value stops).congr fun next => by
      simp [Draft.Takes, amount, window, threshold]

/-- What becomes of a field over the values that are written for it. Without any it stays as it is;
one sets it, unless it was set; no more can follow. -/
def Settled {α : Type} (toInt : α → Int) (held : Option α) (xs : List (Option Int))
    (after : Option α) : Prop :=
  xs = [] ∧ held = after ∨ held = none ∧ ∃ v, xs = [some (toInt v)] ∧ some v = after

theorem settled_cons {α : Type} {toInt : α → Int} {held after : Option α} {x : Option Int}
    {xs : List (Option Int)} : Settled toInt held (x :: xs) after ↔
      held = none ∧ ∃ v, x = some (toInt v) ∧ Settled toInt (some v) xs after := by
  simp [Settled, and_assoc]

/-- The induction is on the members, with what the draft holds so far generalized. -/
theorem path_iff (d last : Draft) (ms : List (String × Option Int)) : Path Draft.Takes d ms last ↔
    Settled Int64.toInt d.amountLimit (written "amount_limit" ms) last.amountLimit ∧
    Settled (fun v : UInt64 => v.toNat) d.windowSeconds (written "velocity_window_secs" ms)
      last.windowSeconds ∧
    Settled (fun v : UInt32 => v.toNat) d.threshold (written "velocity_threshold" ms)
      last.threshold := by
  induction ms generalizing d with
  | nil =>
    obtain ⟨a, w, t⟩ := d
    obtain ⟨a', w', t'⟩ := last
    simp [Path.nil_iff, Settled, written, eq_comm]
  | cons m ms ih =>
    obtain ⟨key, x⟩ := m
    rw [Path.cons_iff]
    simp only [ih]
    by_cases amount : key = "amount_limit"
    · subst amount
      simp only [Draft.Takes, ↓reduceIte, written_same, ne_eq, String.reduceEq, not_false_eq_true,
        written_other, settled_cons]
      constructor
      · rintro ⟨_, ⟨unset, v, fits, rfl⟩, a, w, t⟩
        exact ⟨⟨unset, v, fits, a⟩, w, t⟩
      · rintro ⟨⟨unset, v, fits, a⟩, w, t⟩
        exact ⟨_, ⟨unset, v, fits, rfl⟩, a, w, t⟩
    by_cases window : key = "velocity_window_secs"
    · subst window
      simp only [Draft.Takes, ↓reduceIte, written_same, ne_eq, String.reduceEq, not_false_eq_true,
        written_other, settled_cons]
      constructor
      · rintro ⟨_, ⟨unset, v, fits, rfl⟩, a, w, t⟩
        exact ⟨a, ⟨unset, v, fits, w⟩, t⟩
      · rintro ⟨a, ⟨unset, v, fits, w⟩, t⟩
        exact ⟨_, ⟨unset, v, fits, rfl⟩, a, w, t⟩
    by_cases threshold : key = "velocity_threshold"
    · subst threshold
      simp only [Draft.Takes, ↓reduceIte, written_same, ne_eq, String.reduceEq, not_false_eq_true,
        written_other, settled_cons]
      constructor
      · rintro ⟨_, ⟨unset, v, fits, rfl⟩, a, w, t⟩
        exact ⟨a, w, unset, v, fits, t⟩
      · rintro ⟨a, w, unset, v, fits, t⟩
        exact ⟨_, ⟨unset, v, fits, rfl⟩, a, w, t⟩
    · simp [Draft.Takes, amount, window, threshold, written_other]

/-! ## What is loaded -/

variable {depth : Nat} {text : String} {ms : List (String × Option Int)}

section Setting
variable {α : Type} {toInt : α → Int} {ofInt : Int → α} {low high : Int}
  (represents : Represents toInt ofInt low high) (field : String) (default : α)
include represents

theorem setting_iff (value : α) :
    (∃ after, Settled toInt none (written field ms) after ∧ after.getD default = value) ↔
      Setting ms field (toInt default) (toInt value) := by
  constructor
  · rintro ⟨_, ⟨unlisted, rfl⟩ | ⟨-, v, listed, rfl⟩, rfl⟩
    · exact .inr ⟨unlisted, rfl⟩
    · exact .inl listed
  · rintro (listed | ⟨unlisted, same⟩)
    · exact ⟨some value, .inr ⟨rfl, value, listed, rfl⟩, rfl⟩
    · exact ⟨none, .inl ⟨unlisted, rfl⟩, (represents.injective same).symm⟩

theorem exists_setting : (∃ v, Setting ms field (toInt default) (toInt v)) ↔
    written field ms = [] ∨ ∃ n, written field ms = [some n] ∧ low ≤ n ∧ n ≤ high := by
  constructor
  · rintro ⟨v, listed | ⟨unlisted, -⟩⟩
    · exact .inr ⟨toInt v, listed, represents.bounds v⟩
    · exact .inl unlisted
  · rintro (unlisted | ⟨n, listed, fits⟩)
    · exact ⟨default, .inr ⟨unlisted, rfl⟩⟩
    · obtain ⟨v, rfl⟩ := (represents.range n).mpr fits
      exact ⟨v, .inl listed⟩

end Setting

/-- A document with an object in it is read as what it says. -/
theorem ofText_iff (document : Whole (ObjectOf (AnyValue depth)) text ms) (l : Limits) :
    ofText text = .ok l ↔ Says ms l := by
  refine (Json.RecordShape.decode_object (shape_takes depth) document).trans ?_
  simp only [path_iff, Says, ← setting_iff Represents.int64, ← setting_iff Represents.uint64,
    ← setting_iff Represents.uint32]
  constructor
  · rintro ⟨draft, ⟨amount, window, threshold⟩, finished⟩
    obtain rfl := Except.ok.inj finished
    exact ⟨⟨_, amount, rfl⟩, ⟨_, window, rfl⟩, _, threshold, rfl⟩
  · obtain ⟨_, _, _⟩ := l
    rintro ⟨⟨a, amount, rfl⟩, ⟨w, window, rfl⟩, t, threshold, rfl⟩
    exact ⟨⟨a, w, t⟩, ⟨amount, window, threshold⟩, rfl⟩

/-- A document says something exactly if each field is listed at most once, and then with an integer
that its type can hold. -/
theorem says_iff (ms : List (String × Option Int)) : (∃ l, Says ms l) ↔
    ∀ r ∈ ranges, written r.field ms = [] ∨
      ∃ n, written r.field ms = [some n] ∧ r.least ≤ n ∧ n ≤ r.greatest := by
  simp only [ranges, List.forall_mem_cons, List.not_mem_nil, false_implies, implies_true, and_true]
  rw [← exists_setting Represents.int64 "amount_limit" 1000000,
    ← exists_setting Represents.uint64 "velocity_window_secs" 3600,
    ← exists_setting Represents.uint32 "velocity_threshold" 5]
  constructor
  · rintro ⟨l, amount, window, threshold⟩
    exact ⟨⟨_, amount⟩, ⟨_, window⟩, _, threshold⟩
  · rintro ⟨⟨a, amount⟩, ⟨w, window⟩, t, threshold⟩
    exact ⟨⟨a, w, t⟩, amount, window, threshold⟩

theorem validate_error {l : Limits} {failure : Failure} (refused : l.validate = .error failure) :
    ∃ reason, failure = .config reason := by
  unfold validate at refused
  split at refused
  · exact ⟨_, (Except.error.inj refused).symm⟩
  · split at refused
    · exact ⟨_, (Except.error.inj refused).symm⟩
    · cases refused

section Load
variable {files : Files} {path : String} (held : files.Holds path text)
include held

/-- What cannot be read is malformed. -/
theorem load_malformed (refused : ¬ ∃ l, ofText text = .ok l) :
    ∃ e, load files path = .error (.malformed e) := by
  cases decoded : ofText text with
  | ok l => exact absurd ⟨l, decoded⟩ refused
  | error e => exact ⟨e, by rw [load_held held, decoded]; rfl⟩

/-- What can be read is refused for its window only. -/
theorem load_error {failure : Failure} (failed : load files path = .error failure) :
    (∃ e, failure = .malformed e) ∨ ∃ reason, failure = .config reason := by
  rw [load_held held] at failed
  cases decoded : ofText text with
  | error e =>
    rw [decoded] at failed
    exact .inl ⟨e, (Except.error.inj failed).symm⟩
  | ok l =>
    rw [decoded] at failed
    have refused : (l.validate.map fun _ => l) = .error failure := failed
    cases valid : l.validate with
    | ok =>
      rw [valid] at refused
      cases refused
    | error reason =>
      rw [valid] at refused
      obtain rfl := Except.error.inj refused
      exact .inr (validate_error valid)

end Load

/-- A document is loaded as what it says, if that can be used. It says something exactly if each
field is listed at most once, with an integer that its type can hold: then a listed field is exactly
the integer that is written, and an unlisted one its default, whatever other members stand between
them. All other documents are refused as malformed or for their window, and a field that is listed
again always makes one malformed. -/
theorem load_meaning {files : Files} {path : String} (held : files.Holds path text)
    (document : Whole (ObjectOf (AnyValue depth)) text ms) :
    (∀ l, load files path = .ok l ↔ Says ms l ∧ l.validate = .ok ()) ∧
    ((∃ l, Says ms l) ↔ ∀ r ∈ ranges, written r.field ms = [] ∨
      ∃ n, written r.field ms = [some n] ∧ r.least ≤ n ∧ n ≤ r.greatest) ∧
    (∀ failure, load files path = .error failure →
      (∃ e, failure = .malformed e) ∨ ∃ reason, failure = .config reason) ∧
    ∀ r ∈ ranges, 2 ≤ (written r.field ms).length →
      ∃ e, load files path = .error (.malformed e) := by
  refine ⟨fun l => ?_, says_iff ms, fun _ => load_error held, fun r member repeated => ?_⟩
  · rw [load_held_iff held, ofText_iff document]
  · refine load_malformed held ?_
    simp only [ofText_iff document]
    intro said
    obtain unlisted | ⟨n, listed, -⟩ := (says_iff ms).mp said r member
    · simp [unlisted] at repeated
    · simp [listed] at repeated

/-- A document that lists two fields out of their order, one of them spelled with an escape, and
holds a nested object whose key is half of a pair. -/
theorem load_meaning_spelled :
    let text := "\x7b\"velocity_threshold\":4294967295,\"\\u0061mount_limit\":-7,\"x\":[\x7b\"\\ud800\":-0\x7d]\x7d"
    load (fun _ => .file text.toUTF8) "fraud.json" = .ok ⟨-7, 3600, 4294967295⟩ := by
  intro text
  have integer {key : String} {n : Int} {s value rest : List Char}
      (named : Json.stringTail [] s = .read key (':' :: value))
      (same : (Json.Value.ofInt n).text ++ rest = value) :
      Member (AnyValue 2) ('"' :: s) (key, some n) rest :=
    .member (Json.quoted_iff.mpr named) (.none _) (.none _)
      (.inl (.number (same ▸ Json.ofInt_number _ n)))
  -- The members from the last one to the first, each up to the text behind it.
  have half : HexCode "d800\":-0\x7d]\x7d".toList 0xd800 ('"' :: ":-0\x7d]\x7d".toList) :=
    Json.hexWord_iff.mp (by decide +kernel)
  have object : AnyValue 1 "\x7b\"\\ud800\":-0\x7d]\x7d".toList none [']', '\x7d'] :=
    .inr ⟨rfl, .inr ⟨_, [none], rfl, .first (.none _)
      (.member (.code half (.quote _)) (.none _) (.none _) (.number (.negativeZero _)))
      (.done (.none _))⟩⟩
  have list : AnyValue 2 ('[' :: "\x7b\"\\ud800\":-0\x7d]\x7d".toList) none ['\x7d'] :=
    .inr ⟨rfl, .inl ⟨_, [none], rfl, .first (.none _) object (.done (.none _))⟩⟩
  have last : Member (AnyValue 2) "\"x\":[\x7b\"\\ud800\":-0\x7d]\x7d".toList ("x", none) ['\x7d'] :=
    .member (.quoted (.plain (by decide) (by decide) (by decide) (.quote (':' :: '[' :: _))))
      (.none _) (.none _) list
  have second : Member (AnyValue 2)
      ('"' :: "\\u0061mount_limit\":-7,\"x\":[\x7b\"\\ud800\":-0\x7d]\x7d".toList)
      ("amount_limit", some (-7)) (',' :: "\"x\":[\x7b\"\\ud800\":-0\x7d]\x7d".toList) :=
    @integer _ _ _ "-7,\"x\":[\x7b\"\\ud800\":-0\x7d]\x7d".toList _ (by decide +kernel)
      (by decide +kernel)
  have first : Member (AnyValue 2) ('"' :: text.toList.drop 2) ("velocity_threshold", some 4294967295)
      (',' :: '"' :: "\\u0061mount_limit\":-7,\"x\":[\x7b\"\\ud800\":-0\x7d]\x7d".toList) :=
    @integer _ _ _
      "4294967295,\"\\u0061mount_limit\":-7,\"x\":[\x7b\"\\ud800\":-0\x7d]\x7d".toList _
      (by decide +kernel) (by decide +kernel)
  have document : Whole (ObjectOf (AnyValue 2)) text [("velocity_threshold", some 4294967295),
      ("amount_limit", some (-7)), ("x", none)] := by
    refine ⟨text.toList, [], .none _, ?_, .none _⟩
    rw [(by decide +kernel : text.toList = '\x7b' :: '"' :: text.toList.drop 2)]
    exact .object (.first (.none _) first (.next (.none _) (.none _) second
      (.next (.none _) (.none _) last (.done (.none _)))))
  refine ((load_meaning (Files.holds_text rfl) document).1 _).mpr
    ⟨⟨.inl (by decide), .inr ⟨by decide, by decide⟩, .inl (by decide)⟩, ?_⟩
  exact (validate_iff _).mpr (by decide)

end Clearance.Fraud.Limits
