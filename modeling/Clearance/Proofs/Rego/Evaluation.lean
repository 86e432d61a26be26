import Clearance.Rego.Evaluation

/-! What evaluations end with. Terms without brackets have no choices to make, and a search that
stops at its first solution has one exactly if some item leads to one. -/
namespace Clearance.Rego

/-- An evaluation ends with a value, not with a fault, and in a store that satisfies a condition. -/
def Returns (e : Evaluation α) (s : Store) (a : α) (after : Store → Prop) : Prop :=
  ∃ t, e s = .ok (a, t) ∧ after t

section Returns
variable {e : Evaluation α} {f : α → Evaluation β} {a : α} {b : β} {s : Store}
  {middle after weaker : Store → Prop}

theorem returns_pure (holds : after s) : Returns (pure a) s a after := ⟨s, rfl, holds⟩

theorem returns_bind (first : Returns e s a middle)
    (next : ∀ t, middle t → Returns (f a) t b after) : Returns (e >>= f) s b after := by
  obtain ⟨t, run, holds⟩ := first
  obtain ⟨u, rest, ends⟩ := next t holds
  have whole : (e >>= f) s = f a t := by simp [bind, StateT.bind, run, Except.bind]
  exact ⟨u, whole.trans rest, ends⟩

theorem Returns.imp (returns : Returns e s a after) (weaken : ∀ t, after t → weaker t) :
    Returns e s a weaker := by
  obtain ⟨t, run, holds⟩ := returns
  exact ⟨t, run, weaken t holds⟩

theorem returns_get (next : Returns (g s) s b after) : Returns (get >>= g) s b after := next

end Returns

variable (w : World) (once named : Bool) (outside l : Locals)

/-! ## Single steps -/

section Steps
variable (next : Locals → Evaluation (List Row)) (ss : List Statement) (t item collection : Term)

theorem var_select (x : String) (names : List String) (free : l.find? x = none) :
    (Term.var x).select w l names = (w.look? x names).getD (throw .unknownVariable) := by
  have step : (Term.var x).select w l names =
      ((l.find? x).map fun v => return Value.follow v names).getD
        ((w.look? x names).getD (throw .unknownVariable)) := by
    rw [Term.select]
    cases l.find? x <;> rfl
  rw [step, free]
  rfl

/-- Where no value has been chosen between some brackets, the key decides. -/
theorem index_select (site : Nat) (key : Term) (unchosen : l.chosen.lookup site = none) :
    (Term.index site t key).select w l [] = (do
      let v ← t.select w l []
      let k ← key.select w l []
      return (both v k).bind fun (v, k) => v.index? k) := by
  rw [Term.select, unchosen]
  rfl

theorem member_select : (Term.member none item collection).select w l [] = (do
    let x ← item.select w l []
    return truth (isMember x (← collection.select w l []))) := rfl

theorem array_select (items : List Term) : (Term.array items).select w l [] =
    (do return (← argumentsOf w l false items.length items).map .array) := rfl

theorem object_select (members : List (Term × Term)) : (Term.object members).select w l [] =
    (do return (← membersOf w l members).map .objectOf) := rfl

theorem membersOf_cons (key : Term) (members : List (Term × Term)) :
    membersOf w l ((key, t) :: members) = (do
      match both (← key.select w l []) (← t.select w l []) with
      | none => return none
      | some m => return (← membersOf w l members).map (m :: ·)) := rfl

/-- Constants have values, whatever is around them. -/
theorem argumentsOf_constants (vs : List Value) :
    argumentsOf w l false vs.length (vs.map .constant) = return some vs := by
  induction vs with
  | nil => rfl
  | cons v vs ih =>
    have step : argumentsOf w l false (v :: vs).length ((v :: vs).map .constant) =
        (do return (← argumentsOf w l false vs.length (vs.map .constant)).map (v :: ·)) := rfl
    rw [step, ih]
    rfl

theorem solve_term : solve w once l next (.term t :: ss) =
    (t.range w once true l l fun l => do
      let (v, l) ← t.answer w (t.select w l []) l
      if passes v then solve w once l next ss else return []) := rfl

theorem solve_someIn : solve w once l next (.someIn none item collection :: ss) =
    (collection.range w once true l l fun l => do
      match ← collection.select w l [] with
      | none => return []
      | some c =>
        if ! c.isCollection then throw .notCollection
        gatherMatches once
          (fun m a (_, v) => do
            let a ← pure a
            if a.fits then item.tryOn w m [1] (item.select w · []) v a else return a)
          (fun l => solve w once l next ss) l [] c.entries) := rfl

end Steps

/-! ## Choices -/

theorem rangesOfAll_constants (vs : List Value) : Term.rangesOfAll (vs.map .constant) = [] := by
  induction vs with
  | nil => rfl
  | cons v vs ih => rw [List.map_cons, Term.rangesOfAll, Term.ranges, ih]; rfl

mutual
/-- A term without brackets goes on at once. -/
theorem range_plain (t : Term) (plain : t.ranges = []) (l : Locals)
    (next : Locals → Evaluation (List Row)) : t.range w once named outside l next = next l := by
  cases t with
  | field t name => exact range_plain t (by simpa [Term.ranges] using plain) l next
  | index site t key => simp [Term.ranges] at plain
  | call f arguments => exact rangeAll_plain arguments (by simpa [Term.ranges] using plain) l next
  | array items => exact rangeAll_plain items (by simpa [Term.ranges] using plain) l next
  | set items => exact rangeAll_plain items (by simpa [Term.ranges] using plain) l next
  | object members => exact rangeMembers_plain members (by simpa [Term.ranges] using plain) l next
  | negative t => exact range_plain t (by simpa [Term.ranges] using plain) l next
  | operation op a b =>
    obtain ⟨left, right⟩ : a.ranges = [] ∧ b.ranges = [] := by simpa [Term.ranges] using plain
    rw [Term.range, range_plain a left, range_plain b right]
  | comparison op a b =>
    obtain ⟨left, right⟩ : a.ranges = [] ∧ b.ranges = [] := by simpa [Term.ranges] using plain
    rw [Term.range, range_plain a left, range_plain b right]
  | member key item collection =>
    cases key with
    | none =>
      obtain ⟨left, right⟩ : item.ranges = [] ∧ collection.ranges = [] := by
        simpa [Term.ranges] using plain
      rw [Term.range, range_plain item left, range_plain collection right]
    | some key =>
      obtain ⟨first, left, right⟩ :
          key.ranges = [] ∧ item.ranges = [] ∧ collection.ranges = [] := by
        simpa [Term.ranges] using plain
      rw [Term.range, range_plain key first, range_plain item left, range_plain collection right]
  | _ => rw [Term.range]

theorem rangeAll_plain (ts : List Term) (plain : Term.rangesOfAll ts = []) (l : Locals)
    (next : Locals → Evaluation (List Row)) :
    rangeAll w once named outside l next ts = next l := by
  cases ts with
  | nil => rw [rangeAll]
  | cons t ts =>
    obtain ⟨first, rest⟩ : t.ranges = [] ∧ Term.rangesOfAll ts = [] := by
      simpa [Term.rangesOfAll] using plain
    rw [rangeAll, range_plain t first, rangeAll_plain ts rest]

theorem rangeMembers_plain (ms : List (Term × Term)) (plain : Term.rangesOfMembers ms = [])
    (l : Locals) (next : Locals → Evaluation (List Row)) :
    rangeMembers w once named outside l next ms = next l := by
  cases ms with
  | nil => rw [rangeMembers]
  | cons m ms =>
    obtain ⟨key, t⟩ := m
    obtain ⟨first, value, rest⟩ :
        key.ranges = [] ∧ t.ranges = [] ∧ Term.rangesOfMembers ms = [] := by
      simpa [Term.rangesOfMembers] using plain
    rw [rangeMembers, range_plain key first, range_plain t value, rangeMembers_plain ms rest]
end

/-- A key that has a value already is no choice either. -/
theorem range_index (site : Nat) (t : Term) (x : String) (plain : t.ranges = []) (l : Locals)
    (next : Locals → Evaluation (List Row)) (fixed : w.isLoose outside x = false) :
    (Term.index site t (.var x)).range w once named outside l next = next l := by
  rw [Term.range, range_plain w once named outside t plain, Term.range]
  simp [World.ranges, Term.patternVariables, fixed]

/-! ## Searches -/

section Search
variable {row : Row} {kept : Store → Prop}

/-- Where one solution is enough, there is one if some item has one. -/
theorem gather_once {f : α → Evaluation (List Row)} {finds : α → Bool} (xs : List α)
    (each : ∀ x ∈ xs, ∀ s, kept s → Returns (f x) s (if finds x then [row] else []) kept)
    (s : Store) (start : kept s) :
    Returns (gather true f xs) s (if xs.any finds then [row] else []) kept := by
  induction xs generalizing s with
  | nil => exact returns_pure start
  | cons x xs ih =>
    rw [gather]
    refine returns_bind (each x List.mem_cons_self s start) fun t holds => ?_
    cases found : finds x with
    | true => simpa [found] using returns_pure holds
    | false =>
      have later := ih (fun y member => each y (List.mem_cons_of_mem _ member)) t holds
      simp only [Bool.false_eq_true, if_false, List.isEmpty_nil, Bool.not_true, Bool.and_false]
      rw [List.any_cons, found, Bool.false_or]
      exact returns_bind later fun u ends => returns_pure ends

/-- A variable as a pattern takes each item in turn. -/
theorem gatherMatches_var (x : String) (own : Locals → Evaluation (Option Value))
    (next : Locals → Evaluation (List Row)) (seen : List (List Nat))
    (entries : List (Value × Value)) :
    gatherMatches once (fun m a (_, v) => do
        let a ← pure a
        if a.fits then (Term.var x).tryOn w m [1] own v a else return a) next l seen entries =
      gather once (fun (_, v) => next (l.bind x v)) entries := by
  induction entries with
  | nil => rfl
  | cons entry entries ih =>
    rw [gatherMatches, gather, ← ih]
    rfl

theorem solve_var (x : String) (collection : Term) (ss : List Statement)
    (next : Locals → Evaluation (List Row)) :
    solve w once l next (.someIn none (.var x) collection :: ss) =
      (collection.range w once true l l fun l => do
        match ← collection.select w l [] with
        | none => return []
        | some c =>
          if ! c.isCollection then throw .notCollection
          gather once (fun (_, v) => solve w once (l.bind x v) next ss) c.entries) := by
  simp only [solve_someIn, gatherMatches_var]

section Body
variable {rows : List Row} {l : Locals} {next : Locals → Evaluation (List Row)} {s : Store}

/-- A search for an item of a list with which the rest of a body has a solution. -/
theorem solve_any {x : String} {collection : Term} {ss : List Statement} {vs : List Value}
    {finds : Value → Bool} (plain : collection.ranges = [])
    (selects : Returns (collection.select w l []) s (some (.array vs)) kept)
    (each : ∀ v ∈ vs, ∀ s, kept s →
      Returns (solve w true (l.bind x v) next ss) s (if finds v then [row] else []) kept) :
    Returns (solve w true l next (.someIn none (.var x) collection :: ss)) s
      (if vs.any finds then [row] else []) kept := by
  have items : (Value.array vs).entries.map Prod.snd = vs := by
    simp [Value.entries, Function.comp_def]
  have found : (Value.array vs).entries.any (finds ∘ Prod.snd) = vs.any finds := by
    rw [← List.any_map, items]
  rw [solve_var, range_plain w true true l collection plain]
  refine returns_bind selects fun t holds => ?_
  rw [← found]
  refine gather_once _ (fun entry member => ?_) t holds
  exact each entry.2 (items ▸ List.mem_map_of_mem member)

/-- A last statement that only tests something. -/
theorem solve_test {t : Term} {v : Option Value}
    (fixed : ∀ next, t.range w once true l l next = next l)
    (test : ∀ own, t.answer w own l = return (← own, l))
    (selects : Returns (t.select w l []) s v kept)
    (ends : ∀ t, kept t → Returns (next l) t rows kept) :
    Returns (solve w once l next [.term t]) s (if passes v then rows else []) kept := by
  rw [solve_term, fixed, test, bind_assoc]
  refine returns_bind selects fun u holds => ?_
  cases holding : passes v with
  | true =>
    simp only [pure_bind, holding, if_true]
    exact ends u holds
  | false =>
    simp only [pure_bind, holding, Bool.false_eq_true, if_false]
    exact returns_pure holds

end Body

end Search

end Clearance.Rego
