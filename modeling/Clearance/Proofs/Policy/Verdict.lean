import Clearance.Proofs.Policy.Document

/-! Decisions by a module, whatever interprets it. An interpreter may fail, and it may list results
of any shape. One shape allows, every other one denies, and a failure is neither. -/
namespace Clearance.Policy.Scripted

/-- The value of the first expression of the first result. There may be no result, the result may
have no expression, and the expression may have no value. -/
def firstValue (results : Rego.QueryResults) : Option Rego.Value :=
  (results.head?.bind List.head?).join

namespace Verdict

variable {results : Rego.QueryResults} {v : Verdict} {rule : String}

theorem ofResults_eq : ofResults results =
    match firstValue results with
    | some (.boolean b) => .decided b
    | some _ => .notBoolean
    | none => .undecided := by
  match results with
  | [] => rfl
  | [] :: _ => rfl
  | (none :: _) :: _ => rfl
  | (some value :: _) :: _ => cases value <;> rfl

theorem ofResults_true : ofResults results = .decided true ↔
    firstValue results = some (.boolean true) := by
  rw [ofResults_eq]
  split <;> simp_all

theorem decision_allowed : (v.decision rule).allowed = true ↔ v = .decided true := by
  cases v with
  | decided b => cases b <;> simp [decision, Decision.allow, Decision.deny]
  | undecided => simp [decision, Decision.deny]
  | notBoolean => simp [decision, Decision.deny]

theorem decision_rules : (v.decision rule).rules = [rule] := by
  cases v with
  | decided b => cases b <;> rfl
  | undecided => rfl
  | notBoolean => rfl

theorem ofResults_notBoolean : ofResults results = .notBoolean ↔
    ∃ value, firstValue results = some value ∧ ∀ b, value ≠ .boolean b := by
  rw [ofResults_eq]
  split <;> simp_all

theorem events_ne_nil : v.events ≠ [] := by
  cases v <;> exact List.cons_ne_nil _ _

theorem events_warn :
    ⟨.warn, "Rego policy produced a non-boolean decision"⟩ ∈ v.events ↔ v = .notBoolean := by
  cases v <;> simp [events]

end Verdict

variable {interpret : Interpreter} {p : Scripted} {r : Request}

/-- A request is put to the interpreter as its input document. -/
theorem checkWith_eq : p.checkWith interpret r =
    match interpret p.module (document r) p.query with
    | .ok results =>
      let verdict := Verdict.ofResults results
      ⟨.ok (verdict.decision ("rego:" ++ p.query)), verdict.events⟩
    | .error reason => ⟨.error (.undecided (p.query ++ ": " ++ reason)), []⟩ := by
  delta checkWith
  rw [input_document]
  rfl

theorem decideWith_ok {results : Rego.QueryResults}
    (answered : interpret p.module (document r) p.query = .ok results) :
    p.decideWith interpret r =
      .ok ((Verdict.ofResults results).decision ("rego:" ++ p.query)) := by
  rw [decideWith, checkWith_eq, answered]

theorem decideWith_error {reason : String}
    (failed : interpret p.module (document r) p.query = .error reason) :
    p.decideWith interpret r = .error (.undecided (p.query ++ ": " ++ reason)) := by
  rw [decideWith, checkWith_eq, failed]

/-- Every decision is reported, and of a value that is no boolean there is a warning. Where there is
no decision, nothing is reported. -/
theorem checkWith_reported (interpret : Interpreter) (p : Scripted) (r : Request) :
    let evaluated := interpret p.module (document r) p.query
    let ruling := p.checkWith interpret r
    (ruling.events = [] ↔ ∃ f, ruling.decision = .error f) ∧
    (⟨.warn, "Rego policy produced a non-boolean decision"⟩ ∈ ruling.events ↔
      ∃ results value, evaluated = .ok results ∧ firstValue results = some value ∧
        ∀ b, value ≠ .boolean b) := by
  intro evaluated ruling
  have made : ruling = _ := checkWith_eq
  cases outcome : evaluated with
  | error reason =>
    rw [made, show interpret p.module (document r) p.query = _ from outcome]
    simp
  | ok results =>
    rw [made, show interpret p.module (document r) p.query = _ from outcome]
    simp [Verdict.events_ne_nil, Verdict.events_warn, Verdict.ofResults_notBoolean]

/-- Whatever the interpreter does, a request is allowed exactly if its first value is `true`. There
is no decision exactly if it fails; then the failure says so, is no refusal, and begins with the
query. Anything else denies. What is listed behind the first value changes nothing, and a decision
names the query that led to it. -/
theorem decideWith_three_valued (interpret : Interpreter) (p : Scripted) (r : Request) :
    let evaluated := interpret p.module (document r) p.query
    let answer := p.decideWith interpret r
    ((∃ d, answer = .ok d ∧ d.allowed = true) ↔
      ∃ results, evaluated = .ok results ∧ firstValue results = some (.boolean true)) ∧
    ((∃ f, answer = .error f) ↔ ∃ reason, evaluated = .error reason) ∧
    (∀ f, answer = .error f → f.isUnavailable = true ∧ f.isDenial = false ∧
      ∃ reason, f = .undecided (p.query ++ ": " ++ reason)) ∧
    (∀ results, evaluated = .ok results → firstValue results ≠ some (.boolean true) →
      ∃ d, answer = .ok d ∧ d.allowed = false) ∧
    (∀ results others, evaluated = .ok results → firstValue others = firstValue results →
      p.decideWith (fun _ _ _ => .ok others) r = answer) ∧
    ∀ d, answer = .ok d → d.rules = ["rego:" ++ p.query] := by
  intro evaluated answer
  cases outcome : evaluated with
  | error reason =>
    have failed : answer = .error (.undecided (p.query ++ ": " ++ reason)) :=
      decideWith_error outcome
    simp [failed, Failure.isUnavailable, Failure.isDenial]
  | ok results =>
    let decision := (Verdict.ofResults results).decision ("rego:" ++ p.query)
    have answered : answer = .ok decision := decideWith_ok outcome
    have allowed : decision.allowed = true ↔ firstValue results = some (.boolean true) :=
      Verdict.decision_allowed.trans Verdict.ofResults_true
    refine ⟨by simp [answered, allowed], by simp [answered], by simp [answered], ?_, ?_, ?_⟩
    · rintro _ ⟨rfl⟩ another
      exact ⟨decision, answered, by simpa [← allowed] using another⟩
    · rintro _ others ⟨rfl⟩ same
      have verdict : Verdict.ofResults others = Verdict.ofResults results := by
        rw [Verdict.ofResults_eq, Verdict.ofResults_eq, same]
      have answers : p.decideWith (fun _ _ _ => .ok others) r =
          .ok ((Verdict.ofResults others).decision ("rego:" ++ p.query)) := decideWith_ok rfl
      rw [answered, answers, verdict]
    · rintro d decided
      obtain rfl := Except.ok.inj (answered.symm.trans decided)
      exact Verdict.decision_rules

/-- A text comes first that reads `true`, and the boolean only behind it; no other query is
answered. -/
theorem decideWith_three_valued_text :
    let interpret : Interpreter := fun _ _ query =>
      if query = "data.p.allow" then
        .ok [[some (.string "true"), some (.boolean true)], [some (.boolean true)]]
      else .error "not found"
    let m : Rego.Module := ⟨["p"], [], [], []⟩
    let r : Request := ⟨[.owner], .read, none⟩
    (∃ d, (Scripted.mk "p.rego" m "data.p.allow").decideWith interpret r = .ok d ∧
      d.allowed = false) ∧
    ∃ f, (Scripted.mk "p.rego" m "data.q").decideWith interpret r = .error f ∧
      f.isUnavailable = true := by
  intro interpret m r
  obtain ⟨-, -, -, denies, -⟩ :=
    decideWith_three_valued interpret ⟨"p.rego", m, "data.p.allow"⟩ r
  obtain ⟨-, fails, unavailable, -⟩ := decideWith_three_valued interpret ⟨"p.rego", m, "data.q"⟩ r
  obtain ⟨f, failed⟩ := fails.mpr ⟨"not found", rfl⟩
  exact ⟨denies _ rfl (by simp [firstValue]), f, failed, (unavailable f failed).1⟩

end Clearance.Policy.Scripted
