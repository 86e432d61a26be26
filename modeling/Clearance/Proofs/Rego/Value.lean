import Mathlib.Data.List.Induction
import Clearance.Rego.Value

/-! Objects with strings as keys: what is found at a key is what was put there last, and the order
in which distinct members are written does not matter. -/
namespace Clearance.Rego.Value

theorem order_string_eq (key : String) (x : Value) :
    order (.string key) x = .eq ↔ x = .string key := by
  cases x with
  | string s => rw [order, Std.LawfulEqCmp.compare_eq_iff_eq, string.injEq, eq_comm]
  | _ => simp [order, kindRank]; try decide

theorem index_cons (k x : Value) (members : List (Value × Value)) (key : Value) :
    (object ((k, x) :: members)).index? key =
      if k == key then some x else (object members).index? key := by
  by_cases same : k == key <;> simp [index?, same]

theorem index_insertMember (written : String) (x : Value) (members : List (Value × Value))
    (key : String) : (object (insertMember (.string written) x members)).index? (.string key) =
      if written = key then some x else (object members).index? (.string key) := by
  induction members with
  | nil => simp [insertMember, index_cons]
  | cons m members ih =>
    obtain ⟨l, y⟩ := m
    rw [insertMember]
    split
    · simp [index_cons]
    · next same =>
      obtain rfl := (order_string_eq _ _).mp same
      simp only [index_cons, beq_iff_eq, string.injEq]
      split <;> rfl
    · next behind =>
      have apart : l ≠ .string written := by
        intro eq
        rw [(order_string_eq _ _).mpr eq] at behind
        cases behind
      rw [index_cons, index_cons, ih]
      by_cases found : l = .string key
      · subst found
        have other : written ≠ key := fun same => apart (congrArg string same.symm)
        simp [other]
      · simp [found]

/-- The last of the members of a key counts. -/
theorem index_objectOf (members : List β) (name : β → String) (x : β → Value) (key : String) :
    (objectOf (members.map fun m => (.string (name m), x m))).index? (.string key) =
      (members.reverse.find? (name · == key)).map x := by
  induction members using List.reverseRecOn with
  | nil => rfl
  | append_singleton members m ih =>
    rw [objectOf] at ih ⊢
    rw [List.map_append, List.foldl_append, List.map_cons, List.map_nil, List.foldl_cons,
      List.foldl_nil, index_insertMember, ih, List.reverse_append, List.reverse_singleton,
      List.singleton_append, List.find?_cons]
    by_cases same : name m = key
    · simp [same]
    · simp [same, beq_eq_false_iff_ne.mpr same]

/-! ## The order in which members are written -/

/-- Every key is a name and stands in front of the greater ones. -/
structure Ordered (members : List (Value × Value)) : Prop where
  named : ∀ m ∈ members, ∃ name, m.1 = .string name
  increasing : members.Pairwise fun m n => order m.1 n.1 = .lt

section
variable {key : String} {x : Value} {members : List (Value × Value)}

theorem insertMember_perm (absent : ∀ m ∈ members, m.1 ≠ .string key) :
    (insertMember (.string key) x members).Perm ((.string key, x) :: members) := by
  induction members with
  | nil => exact .refl _
  | cons m members ih =>
    obtain ⟨other, rest⟩ := List.forall_mem_cons.mp absent
    obtain ⟨l, y⟩ := m
    rw [insertMember]
    split
    · exact .refl _
    · next same => exact absurd ((order_string_eq key l).mp same) other
    · exact ((ih rest).cons _).trans (.swap _ _ _)

theorem ordered_cons {name : String} : Ordered ((.string name, x) :: members) ↔
    (∀ m ∈ members, order (.string name) m.1 = .lt) ∧ Ordered members := by
  constructor
  · rintro ⟨named, increasing⟩
    obtain ⟨front, increasing⟩ := List.pairwise_cons.mp increasing
    exact ⟨front, fun m member => named m (List.mem_cons_of_mem _ member), increasing⟩
  · rintro ⟨front, named, increasing⟩
    exact ⟨List.forall_mem_cons.mpr ⟨⟨name, rfl⟩, named⟩,
      List.pairwise_cons.mpr ⟨front, increasing⟩⟩

theorem Ordered.front_trans {name : String} (ordered : Ordered members)
    (before : order (.string key) (.string name) = .lt)
    (front : ∀ m ∈ members, order (.string name) m.1 = .lt) :
    ∀ m ∈ members, order (.string key) m.1 = .lt := by
  intro m member
  obtain ⟨later, isLater⟩ := ordered.named m member
  have between := front m member
  rw [isLater, order] at between ⊢
  rw [order] at before
  exact Std.TransCmp.lt_trans before between

theorem insertMember_ordered (absent : ∀ m ∈ members, m.1 ≠ .string key)
    (ordered : Ordered members) : Ordered (insertMember (.string key) x members) := by
  induction members with
  | nil => exact ordered_cons.mpr ⟨fun _ member => absurd member List.not_mem_nil, ordered⟩
  | cons m members ih =>
    obtain ⟨name, isName⟩ := ordered.named m List.mem_cons_self
    obtain ⟨_, y⟩ := m
    obtain rfl : _ = Value.string name := isName
    obtain ⟨front, later⟩ := ordered_cons.mp ordered
    obtain ⟨other, rest⟩ := List.forall_mem_cons.mp absent
    rw [insertMember]
    split
    · next before =>
      have behind := later.front_trans before front
      exact ordered_cons.mpr ⟨List.forall_mem_cons.mpr ⟨before, behind⟩, ordered⟩
    · next same => exact absurd ((order_string_eq key _).mp same) other
    · next after =>
      refine ordered_cons.mpr ⟨fun n member => ?_, ih rest later⟩
      obtain rfl | member := List.mem_cons.mp ((insertMember_perm rest).mem_iff.mp member)
      · rw [order] at after ⊢
        exact Std.OrientedCmp.gt_iff_lt.mp after
      · exact front n member

/-- Members in order are known by what they are. -/
theorem Ordered.eq_of_perm {others : List (Value × Value)} (ordered : Ordered members)
    (alike : Ordered others) (perm : members.Perm others) : members = others := by
  refine perm.eq_of_pairwise (fun m n member other before after => ?_) ordered.increasing
    alike.increasing
  obtain ⟨name, isName⟩ := ordered.named m member
  obtain ⟨another, isAnother⟩ := alike.named n other
  rw [isName, isAnother, order] at before after
  exact absurd after (Std.OrientedCmp.not_lt_of_lt before)

end

section
variable {ms ns : List (String × Json.Value)}

theorem ofMembers_distinct (distinct : (ms.map Prod.fst).Nodup) :
    (ofMembers ms).Perm (ms.map fun m => (.string m.1, ofJson m.2)) ∧ Ordered (ofMembers ms) := by
  induction ms with
  | nil => exact ⟨.refl _, fun _ member => absurd member List.not_mem_nil, .nil⟩
  | cons m ms ih =>
    obtain ⟨key, x⟩ := m
    obtain ⟨fresh, distinct⟩ := List.nodup_cons.mp distinct
    obtain ⟨perm, ordered⟩ := ih distinct
    -- A key is new among what has been read because it is new in the text, so that the order rests
    -- on the permutation.
    have absent : ∀ m ∈ ofMembers ms, m.1 ≠ .string key := by
      intro m member same
      obtain ⟨n, found, rfl⟩ := List.mem_map.mp (perm.mem_iff.mp member)
      exact fresh (List.mem_map.mpr ⟨n, found, string.inj same⟩)
    have inserted : ofMembers ((key, x) :: ms) =
        insertMember (.string key) (ofJson x) (ofMembers ms) := by
      rw [ofMembers, if_neg (by simpa using fun y member => absent (_, y) member rfl)]
    rw [inserted]
    exact ⟨(insertMember_perm absent).trans (perm.cons _), insertMember_ordered absent ordered⟩

/-- It makes no difference in which order the members of an object are written. -/
theorem ofMembers_eq_of_perm (distinct : (ms.map Prod.fst).Nodup) (perm : ms.Perm ns) :
    ofMembers ms = ofMembers ns := by
  obtain ⟨left, ordered⟩ := ofMembers_distinct distinct
  obtain ⟨right, alike⟩ := ofMembers_distinct ((perm.map Prod.fst).nodup_iff.mp distinct)
  exact ordered.eq_of_perm alike ((left.trans (perm.map _)).trans right.symm)

end

end Clearance.Rego.Value
