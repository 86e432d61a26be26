import Clearance.Proofs.Json.Container

/-! The compact text of a value is read as that value. Numbers are left out here. -/
namespace Clearance.Json

/-- A value without numbers whose lists and objects nest less than the given depth. -/
inductive Value.Plain : Nat → Value → Prop where
  | null {depth : Nat} : Plain (depth + 1) .null
  | boolean {depth : Nat} (b : Bool) : Plain (depth + 1) (.boolean b)
  | string {depth : Nat} (s : String) : Plain (depth + 1) (.string s)
  | array {depth : Nat} {xs : List Value} (items : ∀ x ∈ xs, Plain (depth + 1) x) :
      Plain (depth + 2) (.array xs)
  | object {depth : Nat} {ms : List (String × Value)} (values : ∀ m ∈ ms, Plain (depth + 1) m.2) :
      Plain (depth + 2) (.object ms)

theorem anyValue_quote (depth : Nat) (rest : List Char) :
    anyValue (depth + 1) ('"' :: rest) = (stringTail [] rest).map .string := rfl

theorem anyValue_listStart (depth : Nat) (rest : List Char) :
    anyValue (depth + 2) ('[' :: rest) =
      (closedList (items (anyValue (depth + 1)) (rest.length + 1) true [] rest)).map .array := rfl

theorem anyValue_objectStart (depth : Nat) (rest : List Char) :
    anyValue (depth + 2) ('{' :: rest) =
      (closedObject (members
        (fun done key => (afterColon (anyValue (depth + 1))).map fun x => done ++ [(key, x)])
        (rest.length + 1) true [] rest)).map .object := rfl

theorem anyValue_string (depth : Nat) (s : String) (rest : List Char) :
    anyValue (depth + 1) (literal s ++ rest) = .read (.string s) rest := by
  rw [literal_append, anyValue_quote, stringTail_literal]
  rfl

theorem anyValue_array (depth : Nat) (xs : List Value)
    (reads : ∀ x ∈ xs, Reads (anyValue (depth + 1)) x.text x) (rest : List Char) :
    anyValue (depth + 2) ((Value.array xs).text ++ rest) = .read (.array xs) rest := by
  have whole := items_whole id xs reads rest
  rw [List.map_id] at whole
  rw [array_text, anyValue_listStart, whole, closedList_read]
  rfl

theorem steps_members (depth : Nat) (ms : List (String × Value))
    (reads : ∀ m ∈ ms, Reads (anyValue depth) m.2.text m.2) (done : List (String × Value)) :
    Steps (fun done key => (afterColon (anyValue depth)).map fun x => done ++ [(key, x)])
      done ms (done ++ ms) := by
  induction ms generalizing done with
  | nil => rw [List.append_nil]; exact .nil done
  | cons m ms ih =>
    have later := ih (fun n member => reads n (List.mem_cons_of_mem _ member)) (done ++ [m])
    rw [List.append_assoc, List.singleton_append] at later
    refine .cons (fun rest ends => ?_) later
    have value := (reads m List.mem_cons_self).read rest ends
    simp [Reader.map, afterColon_read, value, Outcome.map, Outcome.bind]

theorem anyValue_object (depth : Nat) (ms : List (String × Value))
    (reads : ∀ m ∈ ms, Reads (anyValue (depth + 1)) m.2.text m.2) (rest : List Char) :
    anyValue (depth + 2) ((Value.object ms).text ++ rest) = .read (.object ms) rest := by
  have steps := steps_members (depth + 1) ms reads []
  rw [object_text, anyValue_objectStart, members_whole steps rest, closedObject_read]
  rfl

theorem anyValue_text {depth : Nat} {v : Value} (plain : v.Plain depth) :
    Reads (anyValue depth) v.text v := by
  induction plain with
  | null => exact ⟨⟨_, _, rfl, rfl, by decide⟩, fun rest _ => rfl⟩
  | boolean b =>
    cases b
    · exact ⟨⟨_, _, rfl, rfl, by decide⟩, fun rest _ => rfl⟩
    · exact ⟨⟨_, _, rfl, rfl, by decide⟩, fun rest _ => rfl⟩
  | string s => exact ⟨⟨_, _, rfl, rfl, by decide⟩, fun rest _ => anyValue_string _ s rest⟩
  | array items ih =>
    exact ⟨⟨_, _, rfl, rfl, by decide⟩, fun rest _ => anyValue_array _ _ ih rest⟩
  | object values ih =>
    exact ⟨⟨_, _, rfl, rfl, by decide⟩, fun rest _ => anyValue_object _ _ ih rest⟩

/-- Whatever strings it holds, a value without numbers comes back from its text. -/
theorem Value.ofText_compact (v : Value) (plain : v.Plain depthLimit) :
    Value.ofText v.compact = .ok v := by
  have whole := (anyValue_text plain).read [] trivial
  rw [List.append_nil] at whole
  simp [Value.ofText, Value.compact, decode, whole]

end Clearance.Json
