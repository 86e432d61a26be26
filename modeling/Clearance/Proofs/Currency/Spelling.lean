import Clearance.Proofs.Currency

/-! Which texts are read as a currency code. A text is put into capitals before it is judged, and
letters of the alphabet are not the only characters that come out as such letters. Ten others do;
the tables of capital forms are gone through once, in `upperChar_cases`, to see that there are no
more. -/
namespace Clearance

/-! ## Characters -/

/-- The characters that are no letters of the alphabet and whose capital form consists of such
letters. -/
def strays : List (Char × List Char) :=
  [('ß', ['S', 'S']), ('ı', ['I']), ('ſ', ['S']), ('ﬀ', ['F', 'F']), ('ﬁ', ['F', 'I']),
    ('ﬂ', ['F', 'L']), ('ﬃ', ['F', 'F', 'I']), ('ﬄ', ['F', 'F', 'L']), ('ﬅ', ['S', 'T']),
    ('ﬆ', ['S', 'T'])]

variable {c : Char}

theorem isLetter_ascii (letter : isLetter c = true) : c.toNat < 0x80 := by
  have range := isLetter_range letter
  omega

theorem isLetter_ofNat {n : Nat} (high : 0x80 ≤ n) : isLetter (Char.ofNat n) = false := by
  by_contra letter
  have low := isLetter_ascii (eq_true_of_ne_false letter)
  by_cases valid : n.isValidChar
  · have code : (Char.ofNat n).toNat = n := by
      rw [Char.ofNat, dif_pos valid]
      rfl
    omega
  · rw [Char.ofNat, dif_neg valid] at letter
    exact letter (by decide)

theorem toUpper_letter_codes : ∀ n < 0x80, isLetter (Char.ofNat n).toUpper = isLetter (Char.ofNat n) ∧
    (isLetter (Char.ofNat n) = true → isCapital (Char.ofNat n).toUpper = true) := by
  decide

/-- Below the end of the oldest character set, exactly letters have letters as their capitals. -/
theorem toUpper_letter (ascii : c.toNat < 0x80) : isLetter c.toUpper = isLetter c ∧
    (isLetter c = true → isCapital c.toUpper = true) := by
  have code := toUpper_letter_codes c.toNat ascii
  rwa [Char.ofNat_toNat] at code

/-- No other character comes out as a capital letter where only letters are put into capitals. -/
theorem isLetter_of_toUpper (capital : isCapital c.toUpper = true) : isLetter c = true := by
  by_cases ascii : c.toNat < 0x80
  · rw [← (toUpper_letter ascii).1]
    exact isCapital_letter capital
  · rw [toUpper_stays (by omega)] at capital
    exact isCapital_letter capital

theorem upperLong_strays : ∀ entry ∈ Text.upperLong,
    (∃ code ∈ entry.2, 0x80 ≤ code) ∨ (Char.ofNat entry.1, entry.2.map Char.ofNat) ∈ strays := by
  decide +kernel

theorem upperRuns_strays : ∀ run ∈ Text.upperRuns, run.last < 0x80 ∨ 0x80 ≤ run.first + run.shift ∨
    run.first = run.last ∧ (Char.ofNat run.first, [run.apply (Char.ofNat run.first)]) ∈ strays := by
  decide +kernel

/-- The capital form of a character that is not a letter holds another character that is none, but
for the strays. -/
theorem upperChar_cases (c : Char) : c.toNat < 0x80 ∧ Text.upperChar c = [c.toUpper] ∨
    (c, Text.upperChar c) ∈ strays ∨ ∃ x ∈ Text.upperChar c, isLetter x = false := by
  by_cases ascii : c.toNat < 0x80
  · exact .inl ⟨ascii, if_pos ascii⟩
  rw [Text.upperChar, if_neg ascii, Text.mapCase]
  refine .inr ?_
  split
  · next n codes found =>
    have same : n = c.toNat := by simpa using List.find?_some found
    rcases upperLong_strays _ (List.mem_of_find?_eq_some found) with ⟨code, member, high⟩ | stray
    · exact .inr ⟨_, List.mem_map_of_mem member, isLetter_ofNat high⟩
    · rw [same, Char.ofNat_toNat] at stray
      exact .inl stray
  · split
    · next run found =>
      have within : run.first ≤ c.toNat ∧ c.toNat ≤ run.last := by
        have inside := List.find?_some found
        simp only [Text.CaseRun.has, Bool.and_eq_true, decide_eq_true_eq] at inside
        exact inside.1
      rcases upperRuns_strays _ (List.mem_of_find?_eq_some found) with low | high | ⟨single, stray⟩
      · omega
      · exact .inr ⟨_, List.mem_singleton_self _, isLetter_ofNat (by omega)⟩
      · have same : run.first = c.toNat := by omega
        rw [same, Char.ofNat_toNat] at stray
        exact .inl stray
    · refine .inr ⟨c, List.mem_singleton_self c, ?_⟩
      exact eq_false_of_ne_true fun letter => ascii (isLetter_ascii letter)

theorem upperChar_stray {form : List Char} (listed : (c, form) ∈ strays) :
    Text.upperChar c = form ∧ ∀ x ∈ form, isCapital x = true := by
  have checked : ∀ stray ∈ strays,
      Text.upperChar stray.1 = stray.2 ∧ stray.2.all isCapital = true := by decide +kernel
  obtain ⟨same, capitals⟩ := checked _ listed
  exact ⟨same, List.all_eq_true.mp capitals⟩

theorem upperChar_ne_nil (c : Char) : Text.upperChar c ≠ [] := by
  intro empty
  rcases upperChar_cases c with ⟨-, single⟩ | stray | ⟨x, member, -⟩
  · rw [empty] at single
    cases single
  · have forms : ∀ stray ∈ strays, stray.2 ≠ [] := by decide
    exact forms _ stray empty
  · rw [empty] at member
    cases member

/-! ## Texts -/

/-- Characters that spell capital letters: letters of the alphabet one each, strays their own forms.
-/
inductive Spells : List Char → List Char → Prop
  | nil : Spells [] []
  | letter {c : Char} {s word : List Char} (letter : isLetter c = true)
      (later : Spells s word) : Spells (c :: s) (c.toUpper :: word)
  | stray {c : Char} {s form word : List Char} (listed : (c, form) ∈ strays)
      (later : Spells s word) : Spells (c :: s) (form ++ word)

variable {s word : List Char}

theorem upper_cons (c : Char) (s : List Char) :
    Text.upper (c :: s) = Text.upperChar c ++ Text.upper s := List.flatMap_cons

theorem upper_eq_nil : Text.upper s = [] ↔ s = [] := by
  cases s with
  | nil => exact ⟨fun _ => rfl, fun _ => rfl⟩
  | cons c s => simp [upper_cons, upperChar_ne_nil]

theorem Spells.upper (spelled : Spells s word) : Text.upper s = word := by
  induction spelled with
  | nil => rfl
  | letter letter later ih =>
    rw [upper_cons, ih, Text.upperChar, if_pos (isLetter_ascii letter)]
    rfl
  | stray listed later ih => rw [upper_cons, ih, (upperChar_stray listed).1]

theorem Spells.capitals (spelled : Spells s word) : ∀ x ∈ word, isCapital x = true := by
  induction spelled with
  | nil => simp
  | letter letter later ih =>
    exact List.forall_mem_cons.mpr ⟨(toUpper_letter (isLetter_ascii letter)).2 letter, ih⟩
  | stray listed later ih => exact List.forall_mem_append.mpr ⟨(upperChar_stray listed).2, ih⟩

theorem spells_upper (letters : ∀ x ∈ Text.upper s, isLetter x = true) :
    Spells s (Text.upper s) := by
  induction s with
  | nil => exact .nil
  | cons c s ih =>
    rw [upper_cons] at letters ⊢
    obtain ⟨here, later⟩ := List.forall_mem_append.mp letters
    rcases upperChar_cases c with ⟨ascii, single⟩ | stray | ⟨x, member, other⟩
    · rw [single] at here ⊢
      have letter := here _ (List.mem_singleton_self _)
      rw [(toUpper_letter ascii).1] at letter
      exact .letter letter (ih later)
    · exact .stray stray (ih later)
    · exact absurd (here x member) (by simp [other])

/-- Letters spell the capitals that they are the small or capital forms of. -/
theorem spells_letters (letters : ∀ x ∈ s, isLetter x = true) : Spells s (s.map Char.toUpper) := by
  induction s with
  | nil => exact .nil
  | cons c s ih =>
    obtain ⟨letter, later⟩ := List.forall_mem_cons.mp letters
    exact .letter letter (ih later)

/-- Without strays, only letters spell letters. -/
theorem spells_plain (plain : ∀ x ∈ s, x ∉ strays.map Prod.fst) :
    Spells s word ↔ (∀ x ∈ s, isLetter x = true) ∧ word = s.map Char.toUpper := by
  constructor
  · intro spelled
    induction spelled with
    | nil => simp
    | letter letter later ih =>
      obtain ⟨letters, rfl⟩ := ih fun x member => plain x (List.mem_cons_of_mem _ member)
      exact ⟨List.forall_mem_cons.mpr ⟨letter, letters⟩, rfl⟩
    | stray listed later ih =>
      exact absurd (List.mem_map_of_mem listed) (plain _ List.mem_cons_self)
  · rintro ⟨letters, rfl⟩
    exact spells_letters letters

namespace Currency

/-! ## Codes -/

theorem normalized_toList (text : String) :
    (normalized text).toList = Text.upper (Text.trim text.toList) := String.toList_ofList

/-- A text is read as the code that its characters spell. -/
theorem ofText_spells (text : String) (c : Currency) :
    ofText text = .ok c ↔ Spells (Text.trim text.toList) c.code.toList := by
  rw [ofText_iff, ← String.toList_inj, normalized_toList]
  constructor
  · intro same
    have letters : ∀ x ∈ Text.upper (Text.trim text.toList), isLetter x = true := by
      rw [same]
      exact fun x member => isCapital_letter (c.capitals x member)
    exact same ▸ spells_upper letters
  · exact Spells.upper

/-- Three letters of the alphabet, with blanks around them. -/
def IsThreeLetters (text : String) : Prop :=
  (Text.trim text.toList).length = 3 ∧ ∀ x ∈ Text.trim text.toList, isLetter x = true

instance (text : String) : Decidable (IsThreeLetters text) :=
  decidable_of_iff ((Text.trim text.toList).length = 3 ∧ (Text.trim text.toList).all isLetter = true)
    (and_congr_right' List.all_eq_true)

/-- A text is accepted if what is left of it without the blanks around it spells three capitals, and
is read as those. Where no strays are left, these are exactly the texts of three letters. -/
theorem accepted_texts (text : String) :
    (∀ c, ofText text = .ok c ↔ Spells (Text.trim text.toList) c.code.toList) ∧
    ((∀ x ∈ Text.trim text.toList, x ∉ strays.map Prod.fst) →
      ((∃ c, ofText text = .ok c) ↔ IsThreeLetters text) ∧
      ∀ c, ofText text = .ok c → c.code.toList = (Text.trim text.toList).map Char.toUpper) := by
  refine ⟨ofText_spells text, fun plain => ?_⟩
  have spelled (c : Currency) := (ofText_spells text c).trans (spells_plain plain)
  refine ⟨⟨?_, ?_⟩, fun c read => ((spelled c).mp read).2⟩
  · rintro ⟨c, read⟩
    obtain ⟨letters, word⟩ := (spelled c).mp read
    have length := c.length_code
    rw [word, List.length_map] at length
    exact ⟨length, letters⟩
  · rintro ⟨length, letters⟩
    have word := spells_letters letters
    let c : Currency := ⟨String.ofList ((Text.trim text.toList).map Char.toUpper),
      isThreeCapitals_iff.mpr (by rw [String.toList_ofList]; exact ⟨by simpa, word.capitals⟩)⟩
    exact ⟨c, (spelled c).mpr ⟨letters, String.toList_ofList⟩⟩

theorem accepted_texts_mixed : IsThreeLetters "\tuSd " ∧ ofText "\tuSd " = .ok .usd := by
  have trimmed : Text.trim "\tuSd ".toList = ['u', 'S', 'd'] := by decide
  have plain : ∀ x ∈ Text.trim "\tuSd ".toList, x ∉ strays.map Prod.fst := by
    rw [trimmed, List.forall_mem_cons, List.forall_mem_cons, List.forall_mem_singleton]
    decide
  obtain ⟨spelled, accepted⟩ := accepted_texts "\tuSd "
  obtain ⟨exactly, same⟩ := accepted plain
  have three : IsThreeLetters "\tuSd " := by decide
  obtain ⟨c, read⟩ := exactly.mpr three
  have code : c.code.toList = Currency.usd.code.toList := (same c read).trans (by decide)
  exact ⟨three, (spelled _).mpr (code ▸ (spelled c).mp read)⟩

/-- A text of two characters, one of them no letter of the alphabet, that is accepted all the same.
-/
theorem accepted_texts_stray : (∃ c, ofText "uß" = .ok c) ∧ ¬ IsThreeLetters "uß" :=
  ⟨⟨⟨"USS", by decide⟩, by decide +kernel⟩, by decide⟩

end Currency

end Clearance
