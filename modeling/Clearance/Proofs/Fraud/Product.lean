import Clearance.Proofs.Fraud.Screening

/-! An engine is the independent product of its rules: in an engine a rule finds what it finds when
it runs alone on the same transactions. Rules of several kinds are covered, as the sum of their
types is again a type of rules; `StandardRule` is such a sum. -/
namespace Clearance.Fraud

variable {ρ : Type} [Rule ρ]

/-! ## A rule alone -/

namespace Rule

def after (rule : ρ) : List Arrival → ρ
  | [] => rule
  | a :: later => after (check rule a.now a.transaction).2 later

/-- What a rule finds that runs alone. Where it cannot run, the failure is what is found, and it
stands under the name that the rule has then. -/
def findings (rule : ρ) : List Arrival → List Finding
  | [] => []
  | a :: later =>
    match check rule a.now a.transaction with
    | (.ok finding, next) => finding :: findings next later
    | (.error failure, next) => ⟨name next, false, some failure.message⟩ :: findings next later

theorem findings_cons (rule : ρ) (a : Arrival) (later : List Arrival) :
    findings rule (a :: later) =
      Engine.findingOf (check rule a.now a.transaction).2 (check rule a.now a.transaction).1 ::
        findings (check rule a.now a.transaction).2 later := by
  rw [findings]
  rcases check rule a.now a.transaction with ⟨answer, next⟩
  cases answer <;> rfl

@[simp] theorem findings_length (rule : ρ) (arrivals : List Arrival) :
    (findings rule arrivals).length = arrivals.length := by
  induction arrivals generalizing rule with
  | nil => rfl
  | cons a later ih => simp [findings_cons, ih]

end Rule

/-! ## Failed findings -/

namespace Screening

theorem ofFindings_risky (found : List Finding) :
    (ofFindings found).isRisky = true ↔ ∃ f ∈ found, f.passed = false := by
  simp [ofFindings]

theorem failed_sublist (s : Screening) : s.failed.Sublist s.findings := List.filter_sublist

/-- Findings that failed are kept as often as they stand there, all others are left out. -/
theorem failed_count (s : Screening) (f : Finding) :
    s.failed.count f = if f.passed then 0 else s.findings.count f := by
  cases passed : f.passed with
  | true =>
    have left : f ∉ s.failed := fun member => by simpa [passed] using (List.mem_filter.mp member).2
    simpa using List.count_eq_zero_of_not_mem left
  | false => simpa [failed] using List.count_filter (by simp [passed])

end Screening

/-! ## The product -/

namespace Engine

variable (engine : Engine ρ) (arrivals : List Arrival)

/-- One step: every rule is asked once, in the state in which it is. -/
theorem check_findings (a : Arrival) :
    (engine.check a.now a.transaction).screening =
      .ofFindings (engine.rules.map fun rule =>
        findingOf (Rule.check rule a.now a.transaction).2
          (Rule.check rule a.now a.transaction).1) := by
  simp [check, Function.comp_def]

theorem check_rules (a : Arrival) : (engine.check a.now a.transaction).engine.rules =
    engine.rules.map fun rule => (Rule.check rule a.now a.transaction).2 := by
  simp [check, Function.comp_def]

theorem after_rules :
    (engine.after arrivals).rules = engine.rules.map fun rule => Rule.after rule arrivals := by
  induction arrivals generalizing engine with
  | nil => simp [after, Rule.after]
  | cons a later ih => simp [after, ih, check_rules, Rule.after, Function.comp_def]

variable {engine arrivals} {k : Nat} {s : Screening}

/-- A screening is made of what the rules find alone, in their order. -/
theorem screenings_findings (present : (engine.screenings arrivals)[k]? = some s) :
    engine.rules.map (fun rule => (Rule.findings rule arrivals)[k]?) = s.findings.map some := by
  induction arrivals generalizing engine k with
  | nil => simp [screenings] at present
  | cons a later ih =>
    cases k with
    | zero =>
      obtain rfl : (engine.check a.now a.transaction).screening = s := by
        simpa [screenings] using present
      simp [check_findings, Rule.findings_cons, Screening.ofFindings]
    | succ k =>
      have next : ((engine.check a.now a.transaction).engine.screenings later)[k]? = some s := by
        simpa [screenings] using present
      have rest := ih next
      simpa [check_rules, Rule.findings_cons, Function.comp_def] using rest

theorem screenings_ofFindings (present : (engine.screenings arrivals)[k]? = some s) :
    s = .ofFindings s.findings := by
  induction arrivals generalizing engine k with
  | nil => simp [screenings] at present
  | cons a later ih =>
    cases k with
    | zero =>
      obtain rfl : (engine.check a.now a.transaction).screening = s := by
        simpa [screenings] using present
      rfl
    | succ k => exact ih (k := k) present

/-- A further rule adds what it finds alone. -/
theorem screenings_withRule (rule : ρ) (present : (engine.screenings arrivals)[k]? = some s) :
    ∃ f, (Rule.findings rule arrivals)[k]? = some f ∧
      ((engine.withRule rule).screenings arrivals)[k]? = some (.ofFindings (s.findings ++ [f])) := by
  have inside : k < arrivals.length := by
    simpa using (List.getElem?_eq_some_iff.mp present).1
  obtain ⟨f, found⟩ : ∃ f, (Rule.findings rule arrivals)[k]? = some f :=
    ⟨_, List.getElem?_eq_getElem (by simpa using inside)⟩
  obtain ⟨extended, entry⟩ : ∃ t, ((engine.withRule rule).screenings arrivals)[k]? = some t :=
    ⟨_, List.getElem?_eq_getElem (by simpa using inside)⟩
  have entries : extended.findings.map some = (s.findings ++ [f]).map some := by
    rw [← screenings_findings entry, withRule, List.map_append, screenings_findings present,
      List.map_append, List.map_singleton, found, List.map_singleton]
  have same : extended.findings = s.findings ++ [f] :=
    (List.map_inj_right fun _ _ => Option.some.inj).mp entries
  refine ⟨f, found, ?_⟩
  rw [entry, screenings_ofFindings entry, same]

/-- The findings of an engine are those of its rules, each run alone on the same transactions: one
for each rule, in the order of the rules, whatever the other rules find and whether they can run at
all. A further rule only adds a finding, and clears no transaction. -/
theorem screenings_product (engine : Engine ρ) (arrivals : List Arrival) :
    (engine.screenings arrivals).length = arrivals.length ∧
    (engine.after arrivals).rules = engine.rules.map (Rule.after · arrivals) ∧
    ∀ (k : Nat) (s : Screening), (engine.screenings arrivals)[k]? = some s →
      s.findings.map some = engine.rules.map (fun rule => (Rule.findings rule arrivals)[k]?) ∧
      (s.isRisky = true ↔ ∃ f ∈ s.findings, f.passed = false) ∧
      s.failed.Sublist s.findings ∧
      (∀ f : Finding, s.failed.count f = if f.passed then 0 else s.findings.count f) ∧
      ∀ rule, ∃ f isRisky, (Rule.findings rule arrivals)[k]? = some f ∧
        ((engine.withRule rule).screenings arrivals)[k]? = some ⟨s.findings ++ [f], isRisky⟩ ∧
        (s.isRisky = true → isRisky = true) := by
  refine ⟨screenings_length _ _, after_rules _ _, fun k s present => ?_⟩
  have risky : s.isRisky = true ↔ ∃ f ∈ s.findings, f.passed = false := by
    rw [screenings_ofFindings present]
    exact Screening.ofFindings_risky _
  refine ⟨(screenings_findings present).symm, risky, s.failed_sublist, s.failed_count, ?_⟩
  intro rule
  obtain ⟨f, found, extended⟩ := screenings_withRule rule present
  refine ⟨f, _, found, extended, fun flagged => ?_⟩
  obtain ⟨failed, member, verdict⟩ := risky.mp flagged
  exact (Screening.ofFindings_risky _).mpr ⟨failed, List.mem_append_left _ member, verdict⟩

/-- A rule that cannot run stands before a rule with a memory, and the two findings of the third
step fail; the second rule has seen all three transactions. -/
theorem screenings_product_behind_failure :
    let broken : StandardRule := .constant "geo" (.error (.rule "geo" "no answer"))
    let velocity : StandardRule := .velocity (.fresh 10 2) none
    let arrivals : List Arrival := [⟨⟨"T1", 1, .usd, "ann"⟩, 0⟩, ⟨⟨"T2", 1, .usd, "ann"⟩, 5⟩,
      ⟨⟨"T3", 1, .usd, "ann"⟩, 7⟩]
    ∃ s, (Engine.screenings ⟨[broken, velocity]⟩ arrivals)[2]? = some s ∧
      s.findings.map some =
        [(Rule.findings broken arrivals)[2]?, (Rule.findings velocity arrivals)[2]?] ∧
      s.findings.map Finding.passed = [false, false] ∧
      s.findings.map Finding.rule = ["geo", velocityRuleName] ∧ s.isRisky = true := by
  intro broken velocity arrivals
  obtain ⟨-, -, each⟩ := screenings_product ⟨[broken, velocity]⟩ arrivals
  obtain ⟨alone, risky, -⟩ := each 2 _ rfl
  exact ⟨_, rfl, alone, rfl, rfl, risky.mpr ⟨_, List.mem_cons_self, rfl⟩⟩

end Engine

end Clearance.Fraud
