import Clearance.Proofs.Json.Number

/-! Each reader of single values, lists, variants and records gives back the value for which a text
was written, and a format that is made of such readers keeps what it writes. -/
namespace Clearance.Json

/-! ## Single values -/

theorem Reads.map {reader : Reader α} {text : List Char} {a : α} (reads : Reads reader text a)
    (f : α → β) : Reads (reader.map f) text (f a) :=
  ⟨reads.start, fun rest ends => by rw [Reader.map, reads.read rest ends]; rfl⟩

theorem literal_start (s : String) :
    ∃ c tail, literal s = c :: tail ∧ isSpace c = false ∧ c ≠ ']' :=
  ⟨'"', _, rfl, rfl, by decide⟩

theorem string_quote (rest : List Char) : string ('"' :: rest) = stringTail [] rest := rfl

theorem string_literal (s : String) (rest : List Char) :
    string (literal s ++ rest) = .read s rest := by
  rw [literal_append, string_quote, stringTail_literal]

theorem reads_string (s : String) : Reads string (Value.string s).text s :=
  ⟨literal_start s, fun rest _ => string_literal s rest⟩

theorem reads_boolean (b : Bool) : Reads boolean (Value.boolean b).text b := by
  cases b
  · exact ⟨⟨_, _, rfl, rfl, by decide⟩, fun _ _ => rfl⟩
  · exact ⟨⟨_, _, rfl, rfl, by decide⟩, fun _ _ => rfl⟩

/-- A string that satisfies the condition. -/
theorem reads_checkedString {check : String → Except String α} {s : String} {a : α}
    (passed : check s = .ok a) : Reads (checkedString check) (Value.string s).text a := by
  refine ⟨literal_start s, fun rest _ => ?_⟩
  have text : string ((Value.string s).text ++ rest) = .read s rest := string_literal s rest
  simp [checkedString, text, Outcome.bind, passed]

/-- A present value, written as a string. -/
theorem reads_optional {reader : Reader α} {s : String} {a : α}
    (reads : Reads reader (Value.string s).text a) :
    Reads (optional reader) (Value.string s).text (some a) := by
  refine ⟨literal_start s, fun rest ends => ?_⟩
  have value := reads.read rest ends
  rw [Value.text, literal_append] at value ⊢
  simp [optional, value, Outcome.map, Outcome.bind]

/-! ## Integers -/

theorem reads_integerWithin (low high : Int) (kind : String) (n : Int) (fitsLow : low ≤ n)
    (fitsHigh : n ≤ high) (wordLow : -0x8000000000000000 ≤ n)
    (wordHigh : n < 0x10000000000000000) :
    Reads (integerWithin low high kind) (Value.ofInt n).text n := by
  obtain ⟨c, tail, start, numeric⟩ := ofInt_start n
  have ⟨solid, item⟩ := startsNumber_solid numeric
  refine ⟨⟨c, tail, start, solid, item⟩, fun rest ends => ?_⟩
  have value := number_ofInt n wordLow wordHigh ends
  rw [start, List.cons_append] at value ⊢
  rw [integerWithin_blank low high kind (.none _) solid, if_pos numeric, value]
  simp [Outcome.bind, fitsLow, fitsHigh, Outcome.located]

theorem reads_int64 (x : Int64) : Reads int64 (Value.ofInt x.toInt).text x := by
  have low := x.le_toInt
  have high := x.toInt_lt
  have reads := (reads_integerWithin (-0x8000000000000000) 0x7FFFFFFFFFFFFFFF "i64" x.toInt low
    (Int.le_sub_one_of_lt high) low (by omega)).map Int64.ofInt
  rwa [Int64.ofInt_toInt] at reads

theorem reads_uint64 (x : UInt64) : Reads uint64 (Value.ofInt x.toNat).text x := by
  have bound := x.toNat_lt
  have reads := (reads_integerWithin 0 0xFFFFFFFFFFFFFFFF "u64" x.toNat (by omega) (by omega)
    (by omega) (by omega)).map fun n => UInt64.ofNat n.toNat
  rwa [Int.toNat_natCast, UInt64.ofNat_toNat] at reads

theorem reads_uint32 (x : UInt32) : Reads uint32 (Value.ofInt x.toNat).text x := by
  have bound := x.toNat_lt
  have reads := (reads_integerWithin 0 0xFFFFFFFF "u32" x.toNat (by omega) (by omega) (by omega)
    (by omega)).map fun n => UInt32.ofNat n.toNat
  rwa [Int.toNat_natCast, UInt32.ofNat_toNat] at reads

/-! ## Variants -/

theorem variant_quote (known : List (String × α)) (rest : List Char) :
    variant known ('"' :: rest) =
      ((stringTail [] rest).bind fun name s =>
        match known.find? (·.1 == name) with
        | some (_, a) => .read a s
        | none => .unfit (.unknownVariant name (known.map (·.1))) s).located := rfl

theorem reads_variant {known : List (String × α)} {name : String} {a : α}
    (listed : known.find? (·.1 == name) = some (name, a)) :
    Reads (variant known) (Value.string name).text a := by
  refine ⟨literal_start name, fun rest _ => ?_⟩
  rw [Value.text, literal_append, variant_quote, stringTail_literal]
  simp [Outcome.bind, listed, Outcome.located]

/-! ## Lists -/

theorem list_start (item : Reader α) (rest : List Char) :
    list item ('[' :: rest) = closedList (items item (rest.length + 1) true [] rest) := rfl

theorem reads_list {item : Reader α} (json : α → Value) (as : List α)
    (reads : ∀ a ∈ as, Reads item (json a).text a) :
    Reads (list item) (Value.array (as.map json)).text as := by
  refine ⟨⟨'[', _, rfl, rfl, by decide⟩, fun rest _ => ?_⟩
  rw [array_text, list_start, items_whole json as reads rest, closedList_read]

theorem reads_strings (xs : List String) : Reads (list string) (Value.ofStrings xs).text xs :=
  reads_list .string xs fun s _ => reads_string s

/-! ## Records -/

section Records
variable {shape : RecordShape σ α} {draft next last : σ} {key : String} {x : Value}
  {ms : List (String × Value)}

theorem RecordShape.reader_start (rest : List Char) :
    shape.reader ('{' :: rest) =
      closedObject ((members shape.member (rest.length + 1) true shape.blank rest).bind
        shape.finished) := rfl

/-- A member of a field that is not set yet fills that field. -/
theorem Steps.field (field : Field σ) (known : shape.find? key = some field)
    (unset : field.isSet draft = false) (reads : Reads (field.fill draft) x.text next)
    (later : Steps shape.member next ms last) : Steps shape.member draft ((key, x) :: ms) last := by
  refine .cons (fun rest ends => ?_) later
  simp [RecordShape.member, known, unset, afterColon_read, reads.read rest ends]

/-- A record is read back if its members fill the blank draft, and the draft can be finished. -/
theorem RecordShape.reads_object {a : α} (filled : σ) (finished : shape.finish filled = .ok a)
    (steps : Steps shape.member shape.blank ms filled) :
    Reads shape.reader (Value.object ms).text a := by
  refine ⟨⟨'{', _, rfl, rfl, by decide⟩, fun rest _ => ?_⟩
  rw [object_text, RecordShape.reader_start, members_whole steps rest]
  simp [Outcome.bind, RecordShape.finished, finished, closedObject_read]

end Records

/-! ## Formats -/

namespace Format

/-- What is written in a format is read as it was. -/
def Keeps (f : Format α) : Prop := ∀ a, Reads f.reader (f.json a).text a

variable {f : Format α} (keeps : f.Keeps)
include keeps

theorem decode_encode (a : α) : f.decode (f.encode a) = .ok a := by
  have whole := (keeps a).read [] trivial
  rw [List.append_nil] at whole
  simp [decode, encode, Json.decode, Value.compact, whole]

/-- A text that was written anew stays as it is. -/
theorem rewrite_rewrite (text : String) : (f.rewrite text).bind f.rewrite = f.rewrite text := by
  rw [rewrite]
  cases f.decode text with
  | error e => rfl
  | ok a => simp [Except.map, Except.bind, rewrite, decode_encode keeps a]

end Format

end Clearance.Json
