import Clearance.Proofs.Fraud.Screening

/-! Principals do not disturb one another: what is found about a transaction depends on the earlier
transactions of its own principal alone, whatever came in between and at whatever times. -/
namespace Clearance.Fraud

namespace Velocity

variable {window : Span} {principal : String}

/-- Operations that do not touch a principal may be left out. -/
theorem outlasts_own (run : List Operation) (entry : Instant) :
    Outlasts window principal (run.filter (·.touches principal)) entry ↔
      Outlasts window principal run entry := by
  simp only [Outlasts, List.mem_filter]
  constructor
  · intro outlasts op member touches
    exact outlasts op ⟨member, touches⟩ touches
  · intro outlasts op member
    exact outlasts op member.1

theorem survivors_own (window : Span) (principal : String) (run : List Operation) :
    survivors window principal (run.filter (·.touches principal)) =
      survivors window principal run := by
  induction run with
  | nil => rfl
  | cons op later ih =>
    cases touched : op.touches principal with
    | false =>
      have unchecked : op.checks principal = false :=
        Bool.eq_false_iff.mpr fun checked => by
          simp [Operation.touches_of_checks checked] at touched
      simp [touched, ih, survivors, unchecked]
    | true =>
      have same : Outlasts window principal ((op :: later).filter (·.touches principal)) op.now ↔
          Outlasts window principal (op :: later) op.now := outlasts_own _ _
      rw [List.filter_cons_of_pos touched] at same ⊢
      rw [survivors, survivors, ih]
      exact if_congr (and_congr_right fun _ => same) rfl rfl

end Velocity

/-! ## The engine of some thresholds -/

def Arrival.isOf (principal : String) (a : Arrival) : Bool := a.transaction.principal == principal

/-- A principal's own transactions, with a further one of its own behind them. -/
theorem own_operations (history : List Arrival) (a : Arrival) :
    ((history ++ [a]).map Arrival.operation).filter (·.touches a.transaction.principal) =
      ((history.filter (·.isOf a.transaction.principal)) ++ [a]).map Arrival.operation := by
  have own (b : Arrival) : b.operation.touches a.transaction.principal =
      b.isOf a.transaction.principal := rfl
  simp [List.filter_map, Function.comp_def, own, Arrival.isOf]

namespace Engine

theorem after_append {ρ : Type} [Rule ρ] (engine : Engine ρ) (earlier later : List Arrival) :
    engine.after (earlier ++ later) = (engine.after earlier).after later := by
  induction earlier generalizing engine with
  | nil => rfl
  | cons a earlier ih => exact ih _

theorem screenings_append {ρ : Type} [Rule ρ] (engine : Engine ρ) (earlier later : List Arrival) :
    engine.screenings (earlier ++ later) =
      engine.screenings earlier ++ (engine.after earlier).screenings later := by
  induction earlier generalizing engine with
  | nil => rfl
  | cons a earlier ih => exact congrArg _ (ih _)

variable (limit : Int64) (window : Span) (threshold : Nat)

/-- An engine of the built-in rules that has screened some transactions and nothing else. -/
def behind (history : List Arrival) : Engine StandardRule :=
  (builtIn limit (.fresh window threshold)).after history

theorem behind_append (history later : List Arrival) :
    behind limit window threshold (history ++ later) =
      (behind limit window threshold history).after later :=
  after_append _ history later

theorem behind_screening (history : List Arrival) (a : Arrival) :
    ((behind limit window threshold history).check a.now a.transaction).screening =
      .ofFindings [checkAmount limit a.transaction, (Velocity.fresh window threshold).judge
        (Velocity.survivors window a.transaction.principal
          ((history ++ [a]).map Arrival.operation)).length] := by
  have judged := Option.some.inj (Velocity.fresh_answer (history.map Arrival.operation) window
    threshold a.transaction a.now)
  rw [behind, builtIn_after, builtIn_screening, List.map_append]
  exact congrArg (fun f => Screening.ofFindings [checkAmount limit a.transaction, f]) judged

/-- The transactions of other principals may be left out. -/
theorem behind_own (history : List Arrival) (a : Arrival) :
    ((behind limit window threshold history).check a.now a.transaction).screening =
      ((behind limit window threshold (history.filter (·.isOf a.transaction.principal))).check
        a.now a.transaction).screening := by
  rw [behind_screening, behind_screening, ← own_operations, Velocity.survivors_own]

/-- Transactions are screened alike behind two histories that agree on their principals. -/
theorem behind_screenings (arrivals : List Arrival) (history other : List Arrival)
    (agree : ∀ a ∈ arrivals, history.filter (·.isOf a.transaction.principal) =
      other.filter (·.isOf a.transaction.principal)) :
    (behind limit window threshold history).screenings arrivals =
      (behind limit window threshold other).screenings arrivals := by
  induction arrivals generalizing history other with
  | nil => rfl
  | cons a later ih =>
    have next (past : List Arrival) :
        ((behind limit window threshold past).check a.now a.transaction).engine =
          behind limit window threshold (past ++ [a]) :=
      (behind_append limit window threshold past [a]).symm
    have tail : ∀ b ∈ later, (history ++ [a]).filter (·.isOf b.transaction.principal) =
        (other ++ [a]).filter (·.isOf b.transaction.principal) := by
      intro b member
      rw [List.filter_append, List.filter_append, agree b (List.mem_cons_of_mem _ member)]
    rw [screenings, screenings, next, next, ih _ _ tail, behind_own limit window threshold history,
      behind_own limit window threshold other, agree a List.mem_cons_self]

end Engine

end Clearance.Fraud
