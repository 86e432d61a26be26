import Clearance.Json.Value
import Clearance.Proofs.Json.Literal

/-! Written lists and objects are read back by readers that read their parts back. -/
namespace Clearance.Json

/-- What stands behind a value inside or at the end of a text. -/
def Ends : List Char → Prop
  | [] => True
  | c :: _ => c = ',' ∨ c = ']' ∨ c = '\x7d'

/-- A reader gives back what a text was written for. The text is not taken for the end of a
list. -/
structure Reads (reader : Reader α) (text : List Char) (a : α) : Prop where
  start : ∃ c tail, text = c :: tail ∧ isSpace c = false ∧ c ≠ ']'
  read : ∀ rest, Ends rest → reader (text ++ rest) = .read a rest

@[simp] theorem skipSpace_nil : skipSpace [] = [] := rfl

theorem skipSpace_cons {c : Char} (solid : isSpace c = false) (rest : List Char) :
    skipSpace (c :: rest) = c :: rest := by
  simp [skipSpace, solid]

variable (rest : List Char)

@[simp] theorem skipSpace_comma : skipSpace (',' :: rest) = ',' :: rest := rfl

@[simp] theorem skipSpace_colon : skipSpace (':' :: rest) = ':' :: rest := rfl

@[simp] theorem skipSpace_quote : skipSpace ('"' :: rest) = '"' :: rest := rfl

@[simp] theorem skipSpace_listEnd : skipSpace (']' :: rest) = ']' :: rest := rfl

@[simp] theorem skipSpace_objectEnd : skipSpace ('\x7d' :: rest) = '\x7d' :: rest := rfl

/-! ## Lists -/

/-- The items behind the first one. -/
def moreItems (xs : List Value) : List Char := xs.flatMap fun x => ',' :: x.text

theorem itemsText_cons (x : Value) (xs : List Value) :
    itemsText (x :: xs) = x.text ++ moreItems xs := by
  induction xs generalizing x with
  | nil => simp [itemsText, moreItems]
  | cons y ys ih => rw [itemsText, ih y]; rfl; simp

theorem moreItems_cons (x : Value) (xs : List Value) :
    moreItems (x :: xs) = ',' :: x.text ++ moreItems xs := List.flatMap_cons

theorem ends_moreItems (xs : List Value) (rest : List Char) :
    Ends (moreItems xs ++ ']' :: rest) := by
  cases xs with
  | nil => exact .inr (.inl rfl)
  | cons x xs => exact .inl rfl

theorem length_le_moreItems (xs : List Value) : xs.length ≤ (moreItems xs).length := by
  induction xs with
  | nil => exact Nat.le_refl 0
  | cons x xs ih => rw [moreItems_cons]; simp; omega

theorem nextItem_first {text : List Char} {c : Char} {tail : List Char} (start : text = c :: tail)
    (solid : isSpace c = false) (item : c ≠ ']') : nextItem true text = .read true text := by
  subst start
  rw [nextItem, skipSpace_cons solid]
  split <;> simp_all

theorem nextItem_comma {text : List Char} {c : Char} {tail : List Char} (start : text = c :: tail)
    (solid : isSpace c = false) (item : c ≠ ']') :
    nextItem false (',' :: text) = .read true text := by
  subst start
  simp [nextItem, skipSpace_cons solid]
  split <;> simp_all

theorem nextItem_end (first : Bool) (rest : List Char) :
    nextItem first (']' :: rest) = .read false (']' :: rest) := by
  simp [nextItem]

section Items
variable {item : Reader α} (json : α → Value)

theorem items_end (n : Nat) (first : Bool) (done : List α) (rest : List Char) :
    items item n first done (']' :: rest) = .read done.reverse (']' :: rest) := by
  cases n with
  | zero => rfl
  | succ n => simp [items, nextItem_end, Outcome.bind]

/-- The items behind those that have been read. -/
theorem items_more (as : List α) (reads : ∀ a ∈ as, Reads item (json a).text a) (n : Nat)
    (enough : as.length ≤ n) (done : List α) (rest : List Char) :
    items item n false done (moreItems (as.map json) ++ ']' :: rest) =
      .read (done.reverse ++ as) (']' :: rest) := by
  induction as generalizing n done with
  | nil => simp [moreItems, items_end]
  | cons a as ih =>
    obtain ⟨n, rfl⟩ : ∃ k, n = k + 1 :=
      Nat.exists_eq_add_one.mpr (Nat.lt_of_lt_of_le (by simp) enough)
    obtain ⟨⟨c, tail, start, solid, isItem⟩, read⟩ := reads a List.mem_cons_self
    have behind := read _ (ends_moreItems (as.map json) rest)
    have later := ih (fun b member => reads b (List.mem_cons_of_mem _ member)) n
      (Nat.le_of_succ_le_succ enough) (a :: done)
    rw [List.map_cons, moreItems_cons, List.cons_append, List.cons_append, List.append_assoc, items,
      nextItem_comma (by rw [start]; rfl) solid isItem]
    simp [Outcome.bind, behind, later]

theorem items_text (as : List α) (reads : ∀ a ∈ as, Reads item (json a).text a)
    (n : Nat) (enough : (itemsText (as.map json)).length < n) (rest : List Char) :
    items item n true [] (itemsText (as.map json) ++ ']' :: rest) = .read as (']' :: rest) := by
  cases as with
  | nil => exact items_end n true [] rest
  | cons a as =>
    obtain ⟨n, rfl⟩ : ∃ k, n = k + 1 := Nat.exists_eq_add_one.mpr (Nat.zero_lt_of_lt enough)
    obtain ⟨⟨c, tail, start, solid, isItem⟩, read⟩ := reads a List.mem_cons_self
    have behind := read _ (ends_moreItems (as.map json) rest)
    rw [List.map_cons, itemsText_cons] at enough ⊢
    have bound : as.length ≤ n := by
      have := length_le_moreItems (as.map json)
      simp at enough this
      omega
    rw [List.append_assoc, items, nextItem_first (by rw [start]; rfl) solid isItem]
    simp [Outcome.bind, behind,
      items_more json as (fun b member => reads b (List.mem_cons_of_mem _ member)) n bound]

/-- The items of a whole list, as many as its text can hold. -/
theorem items_whole (as : List α) (reads : ∀ a ∈ as, Reads item (json a).text a)
    (rest : List Char) :
    items item ((itemsText (as.map json) ++ ']' :: rest).length + 1) true []
      (itemsText (as.map json) ++ ']' :: rest) = .read as (']' :: rest) :=
  items_text json as reads _ (Nat.lt_succ_of_le (List.sublist_append_left _ _).length_le) rest

end Items

theorem array_text (xs : List Value) (rest : List Char) :
    (Value.array xs).text ++ rest = '[' :: (itemsText xs ++ ']' :: rest) := by
  simp [Value.text]

theorem closedList_read (a : α) (rest : List Char) :
    closedList (.read a (']' :: rest)) = .read a rest := by
  simp [closedList, closed, listEnd, Outcome.map, Outcome.bind]

/-! ## Objects -/

/-- The members behind the first one. -/
def moreMembers (ms : List (String × Value)) : List Char :=
  ms.flatMap fun (key, x) => ',' :: literal key ++ ':' :: x.text

theorem membersText_cons (key : String) (x : Value) (ms : List (String × Value)) :
    membersText ((key, x) :: ms) = literal key ++ ':' :: x.text ++ moreMembers ms := by
  induction ms generalizing key x with
  | nil => simp [membersText, moreMembers]
  | cons m ms ih => obtain ⟨next, y⟩ := m; simp [membersText, ih, moreMembers]

theorem moreMembers_cons (key : String) (x : Value) (ms : List (String × Value)) :
    moreMembers ((key, x) :: ms) = ',' :: literal key ++ ':' :: x.text ++ moreMembers ms :=
  List.flatMap_cons

theorem ends_moreMembers (ms : List (String × Value)) (rest : List Char) :
    Ends (moreMembers ms ++ '\x7d' :: rest) := by
  cases ms with
  | nil => exact .inr (.inr rfl)
  | cons m ms => exact .inl rfl

theorem length_le_moreMembers (ms : List (String × Value)) :
    ms.length ≤ (moreMembers ms).length := by
  induction ms with
  | nil => exact Nat.le_refl 0
  | cons m ms ih => obtain ⟨key, x⟩ := m; rw [moreMembers_cons]; simp; omega

theorem literal_append (s : String) (rest : List Char) :
    literal s ++ rest = '"' :: (escape s.toList ++ '"' :: rest) := by
  simp [literal]

theorem nextKey_first (key : String) (rest : List Char) :
    nextKey true (literal key ++ rest) = .read (some key) rest := by
  simp [nextKey, literal_append, stringTail_literal, Outcome.map, Outcome.bind]

theorem nextKey_comma (key : String) (rest : List Char) :
    nextKey false (',' :: (literal key ++ rest)) = .read (some key) rest := by
  simp [nextKey, literal_append, stringTail_literal, Outcome.map, Outcome.bind]

theorem nextKey_end (first : Bool) (rest : List Char) :
    nextKey first ('\x7d' :: rest) = .read none ('\x7d' :: rest) := by
  simp [nextKey]

theorem afterColon_read (reader : Reader α) (s : List Char) :
    afterColon reader (':' :: s) = reader s := by
  simp [afterColon, colon, Outcome.bind]

/-- What some written members make of a state, one after another. -/
inductive Steps (member : σ → String → Reader σ) : σ → List (String × Value) → σ → Prop where
  | nil (state : σ) : Steps member state [] state
  | cons {state next last : σ} {key : String} {x : Value} {ms : List (String × Value)}
      (read : ∀ rest, Ends rest → member state key (':' :: x.text ++ rest) = .read next rest)
      (later : Steps member next ms last) : Steps member state ((key, x) :: ms) last

section Members
variable {member : σ → String → Reader σ} {state last : σ} {ms : List (String × Value)}

theorem members_end (n : Nat) (first : Bool) (state : σ) (rest : List Char) :
    members member n first state ('\x7d' :: rest) = .read state ('\x7d' :: rest) := by
  cases n with
  | zero => rfl
  | succ n => simp [members, nextKey_end, Outcome.bind]

/-- The members behind those that have been read. -/
theorem members_more (steps : Steps member state ms last) (n : Nat) (enough : ms.length ≤ n)
    (rest : List Char) :
    members member n false state (moreMembers ms ++ '\x7d' :: rest) =
      .read last ('\x7d' :: rest) := by
  induction steps generalizing n with
  | nil state => exact members_end n false state rest
  | @cons state next last key x ms read later ih =>
    obtain ⟨n, rfl⟩ := Nat.exists_eq_add_one.mpr (Nat.lt_of_lt_of_le (by simp) enough)
    have behind := read _ (ends_moreMembers ms rest)
    rw [moreMembers_cons, List.append_assoc, List.append_assoc, List.cons_append, members,
      nextKey_comma]
    rw [List.cons_append] at behind ⊢
    simp [Outcome.bind, behind, ih n (Nat.le_of_succ_le_succ enough)]

theorem members_text (steps : Steps member state ms last) (n : Nat)
    (enough : (membersText ms).length < n) (rest : List Char) :
    members member n true state (membersText ms ++ '\x7d' :: rest) =
      .read last ('\x7d' :: rest) := by
  obtain ⟨n, rfl⟩ := Nat.exists_eq_add_one.mpr (Nat.zero_lt_of_lt enough)
  cases steps with
  | nil => exact members_end _ true state rest
  | @cons _ next _ key x ms read later =>
    have behind := read _ (ends_moreMembers ms rest)
    rw [membersText_cons] at enough ⊢
    have bound : ms.length ≤ n := by
      have := length_le_moreMembers ms
      simp at enough
      omega
    rw [List.append_assoc, List.append_assoc, members, nextKey_first]
    rw [List.cons_append] at behind ⊢
    simp [Outcome.bind, behind, members_more later n bound]

/-- The members of a whole object, as many as its text can hold. -/
theorem members_whole (steps : Steps member state ms last) (rest : List Char) :
    members member ((membersText ms ++ '\x7d' :: rest).length + 1) true state
      (membersText ms ++ '\x7d' :: rest) = .read last ('\x7d' :: rest) :=
  members_text steps _ (Nat.lt_succ_of_le (List.sublist_append_left _ _).length_le) rest

end Members

theorem object_text (ms : List (String × Value)) (rest : List Char) :
    (Value.object ms).text ++ rest = '{' :: (membersText ms ++ '\x7d' :: rest) := by
  simp [Value.text]

theorem closedObject_read (a : α) (rest : List Char) :
    closedObject (.read a ('\x7d' :: rest)) = .read a rest := by
  simp [closedObject, closed, objectEnd, Outcome.map, Outcome.bind]

end Clearance.Json
