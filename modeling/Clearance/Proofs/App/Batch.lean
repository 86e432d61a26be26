import Clearance.Proofs.App.Independence
import Clearance.Proofs.Json.Forward
import Clearance.Proofs.Policy.Selection
import Clearance.Proofs.Wire

/-! Files of transactions. A file is screened as a whole or not at all: as its transactions are one
by one, each at its own reading of the clock, or, where a single one of them cannot be read, not
even in part. -/
namespace Clearance

open Json (Reader)
open Json.Grammar

namespace Fraud

theorem Transaction.shape_forward : Transaction.shape.Forward := by
  intro field member draft
  simp only [Transaction.shape, List.mem_cons, List.not_mem_nil, or_false] at member
  rcases member with rfl | rfl | rfl | rfl
  · exact Json.string_forward.map _
  · exact ((Json.integerWithin_forward _ _ _).map _).map _
  · exact (Json.checkedString_forward _).map _
  · exact Json.string_forward.map _

/-- A text is a list of transactions: a JSON list, in which a transaction is found at the place of
every item, and nothing else but blanks. -/
def IsBatch (text : String) (ts : List Transaction) : Prop :=
  Whole (ListOf Transaction.shape.reader.Starts) text ts

theorem isBatch_iff (text : String) (ts : List Transaction) :
    IsBatch text ts ↔ Json.decode batchReader text = .ok ts := by
  have item := Json.RecordShape.recognises Transaction.shape_forward
  exact (Json.decode_iff (Json.list_recognises item)).symm

end Fraud

namespace App

open Fraud (Arrival)

/-- A readable file with a list of transactions. -/
def HoldsBatch (files : Files) (path : String) (ts : List Fraud.Transaction) : Prop :=
  ∃ text, files.Holds path text ∧ Fraud.IsBatch text ts

variable {files : Files} {path : String} {ts : List Fraud.Transaction}

theorem readBatch_iff : readBatch files path = .ok ts ↔ HoldsBatch files path ts := by
  have decoded (text : String) :
      (Json.decode Fraud.batchReader text).mapError (Failure.malformedBatch path) = .ok ts ↔
        Fraud.IsBatch text ts := by
    rw [Fraud.isBatch_iff]
    cases Json.decode Fraud.batchReader text <;> simp [Except.mapError]
  have read : readBatch files path = .ok ts ↔ ∃ text, files.readText path = .ok text ∧
      (Json.decode Fraud.batchReader text).mapError (Failure.malformedBatch path) = .ok ts :=
    Policy.mapError_bind_eq_ok
  simp only [read, decoded, Files.readText_iff, HoldsBatch]

/-- What is written for a list of transactions is a batch of them. -/
theorem holdsBatch_encode (written : files path = .file (WireType.batch.format.encode ts).toUTF8) :
    HoldsBatch files path ts := by
  refine ⟨_, Files.holds_text written, (Fraud.isBatch_iff ..).mpr ?_⟩
  exact Json.Format.decode_encode (WireType.format_keeps .batch) ts

/-! ## One by one -/

section Readings

variable (clock : Nat → Fraud.Instant)

theorem readings_append (xs ys : List Fraud.Transaction) :
    readings clock (xs ++ ys) =
      readings clock xs ++ readings (fun i => clock (i + xs.length)) ys :=
  List.mapIdx_append

theorem readings_transactions (ts : List Fraud.Transaction) :
    (readings clock ts).map Arrival.transaction = ts := by
  induction ts generalizing clock with
  | nil => rfl
  | cons t ts ih => rw [readings_cons, List.map_cons, ih]

end Readings

theorem printed_append (earlier later : List String) :
    printed (earlier ++ later) = printed earlier ++ printed later := by
  simp [printed]

theorem printed_flatten (parts : List (List String)) :
    printed parts.flatten = String.join (parts.map printed) := by
  induction parts with
  | nil => rfl
  | cons part parts ih =>
    rw [List.flatten_cons, printed_append, ih, List.map_cons, String.join_cons]

theorem summaryLine_count (screenings : List Fraud.Screening) :
    summaryLine screenings = "📊 Screened " ++ toString screenings.length ++ " transactions, " ++
      toString (screenings.countP (·.isRisky)) ++ " risky" := by
  rw [List.countP_eq_length_filter]
  rfl

namespace Session

variable (s : Session) (arrivals : List Arrival)

/-- What a sequence of steps prints. -/
def outputs (calls : List Call) : String :=
  String.join ((s.observe calls).map fun seen => printed seen.1)

/-- What a sequence of steps answers. -/
def answers (calls : List Call) : List (Except Failure Answer) := (s.observe calls).map Prod.snd

theorem answers_singles : s.answers (arrivals.map Call.ofArrival) =
    (s.screening.screenings arrivals).map fun screening => .ok (.screening screening) := by
  induction arrivals generalizing s with
  | nil => rfl
  | cons a later ih => exact congrArg _ (ih _)

theorem lines_singles : (s.observe (arrivals.map Call.ofArrival)).map Prod.fst =
    List.zipWith screeningLines (arrivals.map Arrival.transaction)
      (s.screening.screenings arrivals) := by
  induction arrivals generalizing s with
  | nil => rfl
  | cons a later ih =>
    have first := ((Call.ofArrival a).run_screen s rfl).2.lines
    exact congrArg₂ List.cons first (ih _)

theorem outputs_singles : s.outputs (arrivals.map Call.ofArrival) =
    printed (List.zipWith screeningLines (arrivals.map Arrival.transaction)
      (s.screening.screenings arrivals)).flatten := by
  rw [printed_flatten, ← lines_singles, List.map_map]
  rfl

theorem after_singles : s.after (arrivals.map Call.ofArrival) =
    { s with screening := s.screening.after arrivals } := by
  rw [after_session, flatMap_ofArrival]

end Session

variable (s : Session) (clock : Nat → Fraud.Instant)

theorem run_holds (holds : HoldsBatch files path ts) :
    let screenings := s.screening.screenings (readings clock ts)
    (s.run files clock (.screenBatch path)).Shows
      ((List.zipWith screeningLines ts screenings).flatten ++ [summaryLine screenings])
      (.ok (.screenings screenings)) (s.after ((readings clock ts).map Call.ofArrival)) := by
  rw [Session.after_singles]
  exact (Call.run_batch ⟨.screenBatch path, files, clock⟩ s rfl (readBatch_iff.mpr holds)).2

theorem run_holds_not (unread : ¬ ∃ ts, HoldsBatch files path ts) :
    ∃ f, (s.run files clock (.screenBatch path)).Shows [] (.error f) s := by
  cases read : readBatch files path with
  | ok ts => exact absurd ⟨ts, readBatch_iff.mp read⟩ unread
  | error f => exact ⟨f, (Call.run_unread ⟨.screenBatch path, files, clock⟩ s rfl read).2⟩

/-- A file of transactions is screened as they are one by one, at the same readings of the clock:
the same answers, the same lines with a single one behind them, the same session. Hence two files,
one after the other, are as good as a single one of both. A file that is no list of transactions is
not screened at all. -/
theorem batch_singles_or_nothing (files : Files) (path : String) :
    let batch := s.run files clock (.screenBatch path)
    (∀ ts, HoldsBatch files path ts →
      let singles := (readings clock ts).map Call.ofArrival
      ∃ screenings, batch.answer = .ok (.screenings screenings) ∧
        s.answers singles = screenings.map (fun screening => .ok (.screening screening)) ∧
        batch.output = s.outputs singles ++
          printed ["📊 Screened " ++ toString ts.length ++ " transactions, " ++
            toString (screenings.countP (·.isRisky)) ++ " risky"] ∧
        batch.session = s.after singles) ∧
    (∀ xs ys first second, HoldsBatch files path (xs ++ ys) → HoldsBatch files first xs →
      HoldsBatch files second ys →
      let earlier := s.run files clock (.screenBatch first)
      let later := earlier.session.run files (fun i => clock (i + xs.length)) (.screenBatch second)
      ∃ before behind, earlier.answer = .ok (.screenings before) ∧
        later.answer = .ok (.screenings behind) ∧
        batch.answer = .ok (.screenings (before ++ behind)) ∧ batch.session = later.session) ∧
    ((¬ ∃ ts, HoldsBatch files path ts) →
      (∃ f, batch.answer = .error f) ∧ batch.output = "" ∧ batch.session = s) ∧
    ∀ ts, files path = .file (WireType.batch.format.encode ts).toUTF8 →
      HoldsBatch files path ts := by
  refine ⟨fun ts holds => ?_, fun xs ys first second whole one other => ?_, fun unread => ?_,
    fun ts => holdsBatch_encode⟩
  · have length : (s.screening.screenings (readings clock ts)).length = ts.length := by
      rw [Fraud.Engine.screenings_length, readings, List.length_mapIdx]
    have shows := run_holds s clock holds
    refine ⟨_, shows.answer, s.answers_singles _, ?_, shows.session⟩
    simp only [Step.output, shows.lines, printed_append, summaryLine_count, length,
      Session.outputs_singles, readings_transactions]
  · intro earlier later
    have run := run_holds s clock whole
    have ran := run_holds s clock one
    have between : earlier.session = s.after ((readings clock xs).map Call.ofArrival) := ran.session
    have runs := run_holds earlier.session (fun i => clock (i + xs.length)) other
    refine ⟨_, _, ran.answer, runs.answer, ?_, ?_⟩
    · rw [between, Session.after_singles, ← Fraud.Engine.screenings_append, ← readings_append]
      exact run.answer
    · refine run.session.trans (.trans ?_ runs.session.symm)
      rw [between, ← Session.after_append, ← List.map_append, ← readings_append]
  · obtain ⟨f, shows⟩ := run_holds_not s clock unread
    exact ⟨⟨f, shows.answer⟩, congrArg printed shows.lines, shows.session⟩

/-- Three transactions of one principal in a file, and the same ones in two files. In a fourth file
the last transaction is in no currency. -/
theorem batch_singles_or_nothing_bad_currency :
    let t (id : String) : Fraud.Transaction := ⟨id, 500, .usd, "alice"⟩
    let batch (ts : List Fraud.Transaction) : Entry :=
      .file (WireType.batch.format.encode ts).toUTF8
    let broken : Entry := .file <| String.toUTF8 <|
      "[\x7b\"id\":\"a\",\"amount\":500,\"currency\":\"USD\",\"principal_id\":\"alice\"\x7d," ++
        "\x7b\"id\":\"b\",\"amount\":500,\"currency\":\"US\",\"principal_id\":\"alice\"\x7d]"
    let files : Files := fun path =>
      if path = "all.json" then batch [t "a", t "b", t "c"]
      else if path = "first.json" then batch [t "a", t "b"]
      else if path = "second.json" then batch [t "c"]
      else broken
    let clock : Nat → Fraud.Instant := fun i => (i : Int) * 1000000000
    let s := Session.opened .builtIn ⟨100, 60, 1⟩ []
    HoldsBatch files "all.json" [t "a", t "b", t "c"] ∧
      HoldsBatch files "first.json" [t "a", t "b"] ∧ HoldsBatch files "second.json" [t "c"] ∧
      (∃ screenings,
        (s.run files clock (.screenBatch "all.json")).answer = .ok (.screenings screenings) ∧
          s.answers ((readings clock [t "a", t "b", t "c"]).map Call.ofArrival) =
            screenings.map fun screening => .ok (.screening screening)) ∧
      (s.run files clock (.screenBatch "broken.json")).session = s := by
  intro t batch broken files clock s
  obtain ⟨singles, -, -, written⟩ := batch_singles_or_nothing s clock files "all.json"
  obtain ⟨-, -, -, first⟩ := batch_singles_or_nothing s clock files "first.json"
  obtain ⟨-, -, -, second⟩ := batch_singles_or_nothing s clock files "second.json"
  obtain ⟨-, -, nothing, -⟩ := batch_singles_or_nothing s clock files "broken.json"
  have whole := written [t "a", t "b", t "c"] rfl
  refine ⟨whole, first _ rfl, second _ rfl, ?_, ?_⟩
  · obtain ⟨screenings, answer, answers, -⟩ := singles _ whole
    exact ⟨screenings, answer, answers⟩
  · refine (nothing ?_).2.2
    rintro ⟨ts, holds⟩
    have failed : (readBatch files "broken.json").toOption = none := by decide +kernel
    rw [readBatch_iff.mpr holds] at failed
    cases failed

end App

end Clearance
