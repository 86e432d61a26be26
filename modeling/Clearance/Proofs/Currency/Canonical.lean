import Clearance.Wire
import Clearance.Proofs.Currency.Spelling
import Clearance.Proofs.Json.Bracketed

/-! A currency code is one and the same whichever way it is made: from text, from its own text once
more, or from a JSON string. Every text that makes no code is refused for exactly one of three
reasons. -/
namespace Clearance

/-! ## Bytes -/

variable {c : Char}

theorem utf8Size_capital (capital : isCapital c = true) : c.utf8Size = 1 := by
  have code : c.val.toNat ≤ 127 := by
    have range : c.val.toNat ≤ 90 := (isCapital_range capital).2
    omega
  exact Char.utf8Size_eq_one_iff.mpr (UInt32.le_iff_toNat_le.mpr code)

theorem size_utf8Encode_capitals {cs : List Char} (capitals : ∀ c ∈ cs, isCapital c = true) :
    cs.utf8Encode.size = cs.length := by
  induction cs with
  | nil => rfl
  | cons c cs ih =>
    obtain ⟨first, later⟩ := List.forall_mem_cons.mp capitals
    have single : [c].utf8Encode.size = 1 := by
      rw [List.utf8Encode_singleton, List.size_toByteArray, String.length_utf8EncodeChar,
        utf8Size_capital first]
    rw [List.utf8Encode_cons, ByteArray.size_append, single, ih later, List.length_cons,
      Nat.add_comm]

theorem escape_capitals {cs : List Char} (capitals : ∀ c ∈ cs, isCapital c = true) :
    Json.escape cs = cs := by
  induction cs with
  | nil => rfl
  | cons c cs ih =>
    obtain ⟨first, later⟩ := List.forall_mem_cons.mp capitals
    have range := isCapital_range first
    have plain : Json.escapeChar c = [c] := by
      unfold Json.escapeChar
      split
      case h_8 => exact if_neg (by omega)
      all_goals exact absurd range (by decide)
    have rest := ih later
    rw [Json.escape] at rest ⊢
    rw [List.flatMap_cons, plain, rest]
    rfl

/-! ## JSON strings -/

namespace Json

open Grammar

/-- What is written for a text is a string literal of it. -/
theorem whole_compact (text : String) : Whole Quoted (Value.string text).compact text := by
  refine ⟨_, [], .none _, ?_, .none _⟩
  have written : (Value.string text).compact.toList = '"' :: (escape text.toList ++ ['"']) :=
    String.toList_ofList
  rw [written]
  exact quoted_iff.mpr (stringTail_literal text [])

/-- Whatever literal a string is written as, its text alone decides whether it is accepted. -/
theorem decode_checkedString {check : String → Except String α} {json text : String}
    (quoted : Whole Quoted json text) : decode (checkedString check) json =
      (check text).mapError fun reason => ⟨.mismatch (.refused reason), none⟩ := by
  obtain ⟨start, rest, blank, found, ended⟩ := quoted
  have read := (string_recognises.read _ _ _).mpr ⟨start, blank, found⟩
  cases checked : check text with
  | ok a =>
    simp [decode, checkedString, read, Outcome.bind, checked, Except.mapError,
      skipSpace_eq_nil.mpr ended]
  | error reason => simp [decode, checkedString, read, Outcome.bind, checked, Except.mapError]

end Json

namespace Currency

theorem size_bytes (c : Currency) : c.bytes.size = 3 := by
  have size := size_utf8Encode_capitals c.capitals
  rw [String.utf8Encode_toList, c.length_code] at size
  exact size

/-- The bytes of a code are its text. -/
theorem textOf_bytes (c : Currency) : textOf c.bytes = c.code := by
  have text : String.fromUTF8? c.bytes = some c.code := dif_pos (String.isValidUTF8 _)
  rw [textOf, text]
  rfl

theorem encode_currency (c : Currency) :
    WireType.currency.format.encode c = "\"" ++ c.code ++ "\"" := by
  have written : Json.literal c.code = '"' :: c.code.toList ++ ['"'] := by
    rw [Json.literal, escape_capitals c.capitals]
  rw [← String.toList_inj]
  simp [WireType.format, Json.Format.encode, Json.Value.compact, Json.Value.text, written]

theorem decode_currency {json text : String}
    (quoted : Json.Grammar.Whole Json.Grammar.Quoted json text) :
    WireType.currency.format.decode json =
      (ofText text).mapError fun e => ⟨.mismatch (.refused e.message), none⟩ := by
  have reader : WireType.currency.format.decode json = Json.decode Fraud.currencyReader json := rfl
  rw [reader, Fraud.currencyReader, Json.decode_checkedString quoted]
  cases ofText text <;> rfl

/-! ## Refusals -/

theorem normalized_isEmpty (text : String) :
    (normalized text).isEmpty = true ↔ Text.allBlank text = true := by
  rw [String.isEmpty_iff, ← String.toList_eq_nil_iff, normalized_toList, upper_eq_nil,
    Text.trim_eq_nil, Text.allBlank, List.all_eq_true]

/-- Letters that come out of a text in capitals are capital letters. -/
theorem normalized_capitals {text : String}
    (letters : ∀ x ∈ (normalized text).toList, isLetter x = true) :
    ∀ x ∈ (normalized text).toList, isCapital x = true := by
  rw [normalized_toList] at letters ⊢
  exact (spells_upper letters).capitals

/-- Everything that can become of a text. -/
theorem ofText_cases (text : String) :
    (Text.allBlank text = true ∧ ofText text = .error .emptyCode) ∨
    Text.allBlank text = false ∧
      (((∃ x ∈ (normalized text).toList, isLetter x = false) ∧
        ofText text = .error (.invalidFormat (normalized text))) ∨
      (∀ x ∈ (normalized text).toList, isLetter x = true) ∧
        (((normalized text).toList.length ≠ 3 ∧
          ofText text = .error (.invalidLength (normalized text))) ∨
        ((normalized text).toList.length = 3 ∧ ∃ c, ofText text = .ok c))) := by
  have empty := normalized_isEmpty text
  cases blank : Text.allBlank text with
  | true =>
    have refused : ofText text = .error .emptyCode := by simp [ofText, empty.mpr blank]
    exact .inl ⟨rfl, refused⟩
  | false =>
    have present : ¬ (normalized text).isEmpty = true := by simp [empty, blank]
    refine .inr ⟨rfl, ?_⟩
    cases letters : (normalized text).toList.all isLetter with
    | false =>
      have refused : ofText text = .error (.invalidFormat (normalized text)) := by
        simp [ofText, present, letters]
      exact .inl ⟨by simpa using letters, refused⟩
    | true =>
      have all := List.all_eq_true.mp letters
      have capitals := normalized_capitals all
      refine .inr ⟨all, ?_⟩
      by_cases length : (normalized text).toList.length = 3
      · have code := isThreeCapitals_iff.mpr ⟨length, capitals⟩
        exact .inr ⟨length, ⟨normalized text, code⟩, (ofText_iff text _).mpr rfl⟩
      · have longer : ¬ isThreeCapitals (normalized text) = true :=
          fun code => length (isThreeCapitals_iff.mp code).1
        have refused : ofText text = .error (.invalidLength (normalized text)) := by
          simp [ofText, present, letters, longer]
        exact .inl ⟨length, refused⟩

theorem ofText_emptyCode (text : String) :
    ofText text = .error .emptyCode ↔ Text.allBlank text = true := by
  rcases ofText_cases text with ⟨blank, answer⟩ | ⟨present, ⟨-, answer⟩ |
    ⟨-, ⟨-, answer⟩ | ⟨-, c, answer⟩⟩⟩
  · simp [answer, blank]
  all_goals simp [answer, present]

theorem ofText_invalidFormat (text t : String) : ofText text = .error (.invalidFormat t) ↔
    Text.allBlank text = false ∧ t = normalized text ∧ ∃ x ∈ t.toList, isLetter x = false := by
  rcases ofText_cases text with ⟨blank, answer⟩ | ⟨present, ⟨found, answer⟩ | ⟨letters, judged⟩⟩
  · simp [answer, blank]
  · rw [answer, Except.error.injEq, CurrencyError.invalidFormat.injEq]
    exact ⟨fun same => ⟨present, same.symm, same ▸ found⟩, fun stated => stated.2.1.symm⟩
  · have answers : ofText text ≠ .error (.invalidFormat t) := by
      rcases judged with ⟨-, answer⟩ | ⟨-, c, answer⟩ <;> simp [answer]
    refine iff_of_false answers ?_
    rintro ⟨-, same, x, member, other⟩
    exact absurd (letters x (same ▸ member)) (by simp [other])

theorem ofText_invalidLength (text t : String) : ofText text = .error (.invalidLength t) ↔
    Text.allBlank text = false ∧ t = normalized text ∧ (∀ x ∈ t.toList, isLetter x = true) ∧
      t.toList.length ≠ 3 := by
  rcases ofText_cases text with ⟨blank, answer⟩ | ⟨present, ⟨⟨x, member, other⟩, answer⟩ |
    ⟨letters, ⟨length, answer⟩ | ⟨length, c, answer⟩⟩⟩
  · simp [answer, blank]
  · refine iff_of_false (by simp [answer]) ?_
    rintro ⟨-, same, letters, -⟩
    exact absurd (letters x (same ▸ member)) (by simp [other])
  · rw [answer, Except.error.injEq, CurrencyError.invalidLength.injEq]
    exact ⟨fun same => ⟨present, same.symm, same ▸ letters, same ▸ length⟩,
      fun stated => stated.2.1.symm⟩
  · refine iff_of_false (by simp [answer]) ?_
    rintro ⟨-, same, -, another⟩
    exact another (same ▸ length)

/-- Blanks around a code and any mix of small and capital letters are of no account. -/
theorem ofText_respelled (c : Currency) {before spelled after : List Char}
    (blankBefore : ∀ x ∈ before, Text.isBlank x = true)
    (blankAfter : ∀ x ∈ after, Text.isBlank x = true)
    (same : spelled.map Char.toUpper = c.code.toList) :
    ofText (String.ofList (before ++ spelled ++ after)) = .ok c := by
  have letters : ∀ x ∈ spelled, isLetter x = true := by
    intro x member
    have capital := c.capitals x.toUpper (same ▸ List.mem_map_of_mem member)
    exact isLetter_of_toUpper capital
  have solid : ∀ x ∈ spelled, Text.isBlank x = false :=
    fun x member => isBlank_letter (letters x member)
  rw [ofText_spells, String.toList_ofList, Text.trim_append blankBefore blankAfter,
    Text.trim_solid solid, ← same]
  exact spells_letters letters

/-- A code made from a text consists of three capital letters, which are also its bytes. Its own
text makes it again, with blanks around it and in letters of any case; every JSON string of the
first text is read as it, and it is written as the JSON string of its own text. A text makes no code
if it is blank, or else if it has in capitals a character that is no letter, or else if these are
not three; the text in capitals is reported then, and no JSON string of it is read. -/
theorem canonical_codes (text : String) :
    (∀ c, ofText text = .ok c →
      (c.bytes.size = 3 ∧ textOf c.bytes = c.code ∧ c.code.toList.length = 3 ∧
        ∀ x ∈ c.code.toList, isCapital x = true) ∧
      (∀ before spelled after : List Char, (∀ x ∈ before, Text.isBlank x = true) →
        (∀ x ∈ after, Text.isBlank x = true) → spelled.map Char.toUpper = c.code.toList →
          ofText (String.ofList (before ++ spelled ++ after)) = .ok c) ∧
      WireType.currency.format.encode c = "\"" ++ textOf c.bytes ++ "\"") ∧
    (ofText text = .error .emptyCode ↔ Text.allBlank text = true) ∧
    (∀ t, ofText text = .error (.invalidFormat t) ↔ Text.allBlank text = false ∧
      t = normalized text ∧ ∃ x ∈ t.toList, isLetter x = false) ∧
    (∀ t, ofText text = .error (.invalidLength t) ↔ Text.allBlank text = false ∧
      t = normalized text ∧ (∀ x ∈ t.toList, isLetter x = true) ∧ t.toList.length ≠ 3) ∧
    Json.Grammar.Whole Json.Grammar.Quoted (Json.Value.string text).compact text ∧
    ∀ json, Json.Grammar.Whole Json.Grammar.Quoted json text →
      WireType.currency.format.decode json =
        (ofText text).mapError fun e => ⟨.mismatch (.refused e.message), none⟩ := by
  refine ⟨fun c _ => ⟨⟨c.size_bytes, c.textOf_bytes, c.length_code, c.capitals⟩,
    fun _ _ _ => c.ofText_respelled, ?_⟩, ofText_emptyCode text, ofText_invalidFormat text,
    ofText_invalidLength text, Json.whole_compact text, fun _ => decode_currency⟩
  rw [encode_currency, textOf_bytes]

/-- A code in small letters, made again with blanks around it, and its JSON string with an escape.
-/
theorem canonical_codes_respelled : ofText " eur" = .ok .eur ∧
    ofText (String.ofList (['\n'] ++ ['E', 'u', 'R'] ++ ['\t'])) = .ok .eur ∧
    WireType.currency.format.decode "\" \\u0065ur\"" = .ok .eur := by
  have made : ofText " eur" = .ok .eur := by decide
  obtain ⟨codes, -, -, -, -, decoded⟩ := canonical_codes " eur"
  have again := (codes .eur made).2.1 ['\n'] ['E', 'u', 'R'] ['\t']
    (List.forall_mem_singleton.mpr (by decide)) (List.forall_mem_singleton.mpr (by decide)) (by decide)
  have quoted : Json.Grammar.Whole Json.Grammar.Quoted "\" \\u0065ur\"" " eur" :=
    (Json.decode_iff Json.string_recognises).mp (by decide +kernel)
  have read := decoded _ quoted
  rw [made] at read
  exact ⟨made, again, read⟩

end Currency

end Clearance
