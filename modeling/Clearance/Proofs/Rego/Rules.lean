import Clearance.Proofs.Rego.Evaluation
import Clearance.Rego.Interpreter

/-! The values of rules, from what their bodies and their terms end with. A rule is evaluated once:
its value is joined to the store, and later evaluations leave the store as it is. -/
namespace Clearance.Rego

theorem returns_modify {f : Store → Store} {s : Store} {after : Store → Prop}
    (holds : after (f s)) : Returns (modify f : Evaluation PUnit) s () after := ⟨f s, rfl, holds⟩

/-! ## Contributions -/

namespace Rule
variable {w : World} {r : Rule} {s : Store} {after : Store → Prop}

/-- A rule that only tests is true where its body has a solution, and gives nothing elsewhere. -/
theorem contribution_test {holds : Bool} (whole : r.target = .whole) (bare : r.first.value = none)
    (alone : r.others = [])
    (solves : Returns (solve w true Locals.empty.opened (fun _ => return [[]]) r.first.body) s
      (if holds then [[]] else []) after) :
    Returns (r.contribution w) s (if holds then some (.boolean true) else none) after := by
  have rows : outputs w .empty r.first.body (r.target.heads ++ r.first.value.toList) =
      solve w true Locals.empty.opened (fun _ => return [[]]) r.first.body := by
    rw [whole, bare]
    rfl
  have isRule : r.isFunction = false := by rw [isFunction, whole]
  rw [contribution, isRule, valueWith, rows]
  refine returns_bind solves fun t ends => ?_
  rw [whole, alone]
  cases holds with
  | true => exact ⟨t, rfl, ends⟩
  | false => exact ⟨t, rfl, ends⟩

/-- A rule without a body has the value of its term. -/
theorem contribution_written {t : Term} {v : Value} (whole : r.target = .whole)
    (free : r.first.body = []) (written : r.first.value = some t) (plain : t.ranges = [])
    (selects : ∀ l, Returns (t.select w l []) s (some v) after) :
    Returns (r.contribution w) s (some v) after := by
  have isRule : r.isFunction = false := by rw [isFunction, whole]
  have rows : outputs w .empty r.first.body (r.target.heads ++ r.first.value.toList) =
      rangeAll w false false Locals.empty.opened Locals.empty.opened
        (fun l => do return [← [t].mapM (Term.select w l [])]) [t] := by
    rw [whole, free, written]
    rfl
  rw [contribution, isRule, valueWith, rows, rangeAll, range_plain w _ _ _ t plain, rangeAll]
  simp only [List.mapM_cons, List.mapM_nil, bind_assoc, pure_bind]
  refine returns_bind (selects _) fun u ends => ?_
  rw [whole]
  exact ⟨u, rfl, ends⟩

end Rule

/-! ## Evaluation -/

namespace Module
variable {m : Module} {active : List Nat} {inside : List Nat → World} {i : Nat} {r : Rule}
  {s : Store} {before after : Store → Prop}

theorem evaluateRule_again (done : i ∈ s.evaluated) :
    Returns (m.evaluateRule active inside i r) s () (· = s) := by
  rw [evaluateRule]
  refine returns_get ?_
  rw [if_pos (by simp [done])]
  exact returns_pure rfl

/-- The store behind a rule with some contribution. -/
def Joins (m : Module) (i : Nat) (r : Rule) (v : Option Value) (s : Store) (after : Store → Prop) :
    Prop :=
  match v with
  | none => after { s with evaluated := i :: s.evaluated }
  | some v => ∃ t, s.join (m.package ++ r.place) v = .ok t ∧
      after { t with evaluated := i :: t.evaluated }

theorem evaluateRule_first {v : Option Value} (fresh : i ∉ s.evaluated)
    (idle : i ∉ active)
    (gives : Returns (r.contribution (inside (i :: active))) s v before)
    (joins : ∀ t, before t → Joins m i r v t after) :
    Returns (m.evaluateRule active inside i r) s () after := by
  rw [evaluateRule]
  refine returns_get ?_
  rw [if_neg (by simp [fresh]), if_neg (by simp [idle])]
  refine returns_bind gives fun t holds => ?_
  cases v with
  | none => exact returns_modify (joins t holds)
  | some v =>
    obtain ⟨u, joined, ends⟩ := joins t holds
    refine returns_get ?_
    refine ⟨_, ?_, ends⟩
    simp only [joined]
    rfl

end Module

/-! ## Queries -/

section Queries
variable (w : World) (l : Locals) (t : Term)

theorem answers_term : answers w l [] [.term t] =
    (t.range w false true l l fun l => do
      let (v, l) ← t.answer w (t.select w l []) l
      if passes v then answers w l [v] [] else return []) := rfl

theorem firstAnswer_term : firstAnswer w l [.term t] =
    (t.range w false true l l fun l => do
      let (v, _) ← t.answer w (t.select w l []) l
      let v := if passes v then none else v
      return if l.chosen.isEmpty && v.isSome then [[v]] else []) := rfl

variable {w l t} {v : Value} {s : Store} {kept : Store → Prop}

/-- A query for one term lists the value of that term, even if it does not hold. It is then
evaluated a second time. -/
theorem answersOrFirst_term (plain : t.ranges = []) (unchosen : l.chosen = [])
    (test : ∀ own, t.answer w own l = return (← own, l))
    (first : Returns (t.select w l []) s (some v) kept)
    (again : ∀ u, kept u → Returns (t.select w l []) u (some v) kept) :
    Returns (answersOrFirst w l [.term t]) s [[some v]] kept := by
  rw [answersOrFirst, answers_term, range_plain w false true l t plain, test, bind_assoc,
    bind_assoc]
  refine returns_bind first fun u holds => ?_
  simp only [pure_bind]
  cases holding : passes (some v) with
  | true => exact returns_pure holds
  | false =>
    simp only [Bool.false_eq_true, if_false, pure_bind]
    rw [firstAnswer_term, range_plain w false true l t plain, test, bind_assoc]
    refine returns_bind (again u holds) fun x ends => ?_
    simp only [pure_bind, holding, unchosen]
    exact returns_pure ends

end Queries

end Clearance.Rego
