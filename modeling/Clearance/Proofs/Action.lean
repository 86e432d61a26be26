import Clearance.Name

/-! Qualified actions. The dot that counts is the first one, so what stands before it holds none,
and an action is put together from one resource and one verb only. -/
namespace Clearance.Action

/-- What is done: of a qualified action the part behind its first dot. -/
def verb (a : Action) : Action :=
  match a.qualified? with
  | some (_, verb) => ⟨verb⟩
  | none => a

/-- What a qualified action is done to. Other actions do not say. -/
def subject (a : Action) : Resource :=
  match a.qualified? with
  | some (resource, _) => (Resource.mk resource).canonical
  | none => ⟨""⟩

theorem verb_read : read.verb = read := by decide

theorem qualified?_all : all.qualified? = none := by decide

theorem all_ne_read : all ≠ read := by decide

/-! ## The first dot -/

/-- A name that can stand before the dot. -/
def Qualifier (name : String) : Prop := name ≠ "" ∧ '.' ∉ name.toList

variable {before behind cs : List Char}

theorem splitAtDot_append (dotless : '.' ∉ before) :
    splitAtDot (before ++ '.' :: behind) = some (before, behind) := by
  induction before with
  | nil => rfl
  | cons c before ih =>
    rw [List.mem_cons, not_or] at dotless
    rw [List.cons_append, splitAtDot, if_neg (Ne.symm dotless.1), ih dotless.2]
    rfl

theorem eq_of_splitAtDot (split : splitAtDot cs = some (before, behind)) :
    cs = before ++ '.' :: behind ∧ '.' ∉ before := by
  induction cs generalizing before with
  | nil => cases split
  | cons c rest ih =>
    rw [splitAtDot] at split
    split at split
    · next dot =>
      cases split
      exact ⟨by rw [dot, List.nil_append], List.not_mem_nil⟩
    · next other =>
      obtain ⟨⟨earlier, later⟩, tail, same⟩ := Option.map_eq_some_iff.mp split
      obtain ⟨rfl, rfl⟩ := Prod.mk.inj same
      obtain ⟨rfl, dotless⟩ := ih tail
      exact ⟨rfl, by simp [dotless, Ne.symm other]⟩

variable {a : Action} {resource verb : String}

/-- An action is qualified if it is a name without a dot, then a dot, then a verb of any kind. -/
theorem qualified?_iff : a.qualified? = some (resource, verb) ↔
    a = ⟨resource ++ "." ++ verb⟩ ∧ Qualifier resource ∧ verb ≠ "" := by
  obtain ⟨name⟩ := a
  constructor
  · intro qualified
    rw [qualified?] at qualified
    split at qualified
    · next before behind split =>
      obtain ⟨whole, dotless⟩ := eq_of_splitAtDot split
      split at qualified
      · cases qualified
      · next present =>
        obtain ⟨rfl, rfl⟩ := Prod.mk.inj (Option.some.inj qualified)
        simp only [Bool.or_eq_true, List.isEmpty_iff, not_or] at present
        have joined : name = String.ofList before ++ "." ++ String.ofList behind :=
          String.toList_inj.mp (by simpa using whole)
        refine ⟨congrArg Action.mk joined, ⟨?_, by simpa using dotless⟩, ?_⟩
        · simpa [← String.toList_eq_nil_iff] using present.1
        · simpa [← String.toList_eq_nil_iff] using present.2
    · cases qualified
  · rintro ⟨whole, ⟨named, dotless⟩, present⟩
    have split : splitAtDot name.toList = some (resource.toList, verb.toList) := by
      rw [Action.mk.inj whole, ← splitAtDot_append dotless]
      simp
    simp [qualified?, split, named, present]

/-- The first dot leaves one way to put a text together around it. -/
theorem joined_injective {first second before behind : String} (dotless : '.' ∉ first.toList)
    (another : '.' ∉ before.toList) (same : first ++ "." ++ second = before ++ "." ++ behind) :
    first = before ∧ second = behind := by
  have split : splitAtDot (first.toList ++ '.' :: second.toList) =
      splitAtDot (before.toList ++ '.' :: behind.toList) :=
    congrArg splitAtDot (by simpa using congrArg String.toList same)
  rw [splitAtDot_append dotless, splitAtDot_append another] at split
  obtain ⟨left, right⟩ := Prod.mk.inj (Option.some.inj split)
  exact ⟨String.toList_inj.mp left, String.toList_inj.mp right⟩

theorem split_of_dot {name : String} (dotted : '.' ∈ name.toList) :
    ∃ before behind : String, name = before ++ "." ++ behind ∧ '.' ∉ before.toList := by
  obtain ⟨before, behind, whole, dotless⟩ := List.eq_append_cons_of_mem dotted
  exact ⟨.ofList before, .ofList behind, String.toList_inj.mp (by simpa using whole),
    by simpa using dotless⟩

/-- What is not qualified has no dot, or its first dot stands at the beginning or at the end. -/
theorem qualified?_none : a.qualified? = none ↔
    '.' ∉ a.name.toList ∨ (∃ behind, a.name = "." ++ behind) ∨
      ∃ before, '.' ∉ before.toList ∧ a.name = before ++ "." := by
  obtain ⟨name⟩ := a
  constructor
  · intro plain
    by_cases dotted : '.' ∈ name.toList
    · -- Around the first dot one side must be empty, or the action would be qualified.
      obtain ⟨before, behind, rfl, dotless⟩ := split_of_dot dotted
      by_cases leading : before = ""
      · exact .inr (.inl ⟨behind, by simp [leading]⟩)
      · by_cases trailing : behind = ""
        · exact .inr (.inr ⟨before, dotless, by simp [trailing]⟩)
        · rw [qualified?_iff.mpr ⟨rfl, ⟨leading, dotless⟩, trailing⟩] at plain
          cases plain
    · exact .inl dotted
  · intro shape
    cases qualified : (Action.mk name).qualified? with
    | none => rfl
    | some parts =>
      obtain ⟨resource, verb⟩ := parts
      obtain ⟨whole, ⟨named, dotless⟩, present⟩ := qualified?_iff.mp qualified
      obtain rfl := Action.mk.inj whole
      rcases shape with plain | ⟨behind, same⟩ | ⟨before, another, same⟩
      · simp at plain
      · have split : resource ++ "." ++ verb = "" ++ "." ++ behind := by simpa using same
        exact absurd (joined_injective dotless (by simp) split).1 named
      · have split : resource ++ "." ++ verb = before ++ "." ++ "" := by simpa using same
        exact absurd (joined_injective dotless another split).2 present

/-- An action is split exactly if it is a name without a dot, then a dot, then a verb of any kind,
and it is split into these. No other action is; those are the ones without a dot, with a dot in
front or with their only dot at the end. Joining and splitting undo each other. -/
theorem splits_at_first_dot (a : Action) :
    (∀ resource verb, a.qualified? = some (resource, verb) ↔
      a.name = resource ++ "." ++ verb ∧ resource ≠ "" ∧ '.' ∉ resource.toList ∧ verb ≠ "") ∧
    (a.qualified? = none ↔ ¬∃ resource verb,
      a.name = resource ++ "." ++ verb ∧ resource ≠ "" ∧ '.' ∉ resource.toList ∧ verb ≠ "") ∧
    (a.qualified? = none ↔ '.' ∉ a.name.toList ∨ (∃ behind, a.name = "." ++ behind) ∨
      ∃ before, '.' ∉ before.toList ∧ a.name = before ++ ".") ∧
    (∀ resource verb, a.qualified? = some (resource, verb) → ⟨resource ++ "." ++ verb⟩ = a) ∧
    ∀ resource verb, Qualifier resource → verb ≠ "" →
      (Action.mk (resource ++ "." ++ verb)).qualified? = some (resource, verb) := by
  have exact_parts (resource verb : String) : a.qualified? = some (resource, verb) ↔
      a.name = resource ++ "." ++ verb ∧ resource ≠ "" ∧ '.' ∉ resource.toList ∧ verb ≠ "" := by
    obtain ⟨name⟩ := a
    rw [qualified?_iff, Action.mk.injEq, Qualifier, and_assoc]
  refine ⟨exact_parts, ?_, qualified?_none, fun resource verb qualified => ?_,
    fun resource verb qualifier present => qualified?_iff.mpr ⟨rfl, qualifier, present⟩⟩
  · rw [Option.eq_none_iff_forall_ne_some, Prod.forall, not_exists]
    simp only [ne_eq, exact_parts, not_exists]
  · exact (qualified?_iff.mp qualified).1.symm

/-- A verb that begins with the second of three dots, behind letters of several bytes. -/
theorem splits_at_first_dot_dotted_verb :
    Qualifier "зона" ∧ (Action.mk "зона..é.").qualified? = some ("зона", ".é.") ∧
      (Action.mk "зона.").qualified? = none ∧ (Action.mk ".зона.é").qualified? = none := by
  have qualifier : Qualifier "зона" := by simp [Qualifier]
  refine ⟨qualifier, ?_, ?_, ?_⟩
  · exact (splits_at_first_dot ⟨"зона..é."⟩).2.2.2.2 "зона" ".é." qualifier (by decide)
  · exact (splits_at_first_dot ⟨"зона."⟩).2.2.1.mpr (.inr (.inr ⟨"зона", by decide, rfl⟩))
  · exact (splits_at_first_dot ⟨".зона.é"⟩).2.2.1.mpr (.inr (.inl ⟨"зона.é", rfl⟩))

/-! ## Verb and subject -/

theorem verb_qualified (qualified : a.qualified? = some (resource, verb)) : a.verb = ⟨verb⟩ := by
  rw [Action.verb, qualified]

theorem subject_qualified (qualified : a.qualified? = some (resource, verb)) :
    a.subject = (Resource.mk resource).canonical := by
  rw [subject, qualified]

/-- Only a qualified action has something in front of its verb. -/
theorem verb_eq_iff : a.verb = a ↔ a.qualified? = none := by
  cases qualified : a.qualified? with
  | none => simp [Action.verb, qualified]
  | some parts =>
    obtain ⟨resource, verb⟩ := parts
    rw [verb_qualified qualified, (qualified?_iff.mp qualified).1]
    simp only [mk.injEq, reduceCtorEq, iff_false]
    -- The whole is longer than its verb, by the dot at least.
    intro same
    have length := congrArg String.length same
    simp only [String.length_append] at length
    have dot : ".".length = 1 := rfl
    omega

end Clearance.Action
