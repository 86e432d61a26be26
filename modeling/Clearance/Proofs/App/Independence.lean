import Clearance.Proofs.App.Calls
import Clearance.Proofs.Fraud.Independence

/-! Commands on one session do not interfere. The session remembers transactions only, and of those
only the ones of the same principal count. -/
namespace Clearance.App

open Fraud (Arrival)

namespace Session

/-- A session that has screened some transactions and is otherwise as it was opened. -/
def opened (policy : Policy.Engine) (limits : Fraud.Limits) (history : List Arrival) : Session :=
  ⟨policy, .behind limits.amountLimit (Fraud.Span.ofSeconds limits.windowSeconds.toNat)
    limits.threshold.toNat history⟩

theorem start_opened (sources : Policy.Sources) (limits : Fraud.Limits) (files : Files)
    (valid : limits.validate = .ok ()) :
    start sources limits files =
      .ok (opened (Policy.Selection.ofSources sources files).engine limits []) := by
  rw [start, Fraud.Engine.ofLimits_of_valid limits valid]
  rfl

variable (policy : Policy.Engine) (limits : Fraud.Limits)

theorem opened_after (history : List Arrival) (calls : List Call) :
    (opened policy limits history).after calls =
      opened policy limits (history ++ calls.flatMap Call.arrivals) := by
  rw [after_session, opened, opened, Fraud.Engine.behind_append]

/-- A step shows the same behind two histories that agree on the principals of its transactions. -/
theorem opened_seen (c : Call) (history other : List Arrival)
    (agree : ∀ a ∈ c.arrivals, history.filter (·.isOf a.transaction.principal) =
      other.filter (·.isOf a.transaction.principal)) :
    (c.run (opened policy limits history)).seen = (c.run (opened policy limits other)).seen :=
  c.run_seen (opened policy limits history) rfl
    (Fraud.Engine.behind_screenings _ _ _ c.arrivals history other agree)

theorem flatMap_ofArrival (history : List Arrival) :
    (history.map Call.ofArrival).flatMap Call.arrivals = history := by
  simp [List.flatMap_map]

/-- A transaction is screened as it is on a new session that has screened only the earlier ones of
its principal, one by one. -/
theorem opened_screened (earlier : List Call) (c : Call) (i : Nat) (a : Arrival)
    (present : c.arrivals[i]? = some a) :
    let own := (earlier.flatMap Call.arrivals ++ c.arrivals.take i).filter
      (·.isOf a.transaction.principal)
    ∃ screening, (c.run ((opened policy limits []).after earlier)).screened[i]? = some screening ∧
      ((Call.ofArrival a).run ((opened policy limits []).after (own.map Call.ofArrival))).answer =
        .ok (.screening screening) := by
  intro own
  refine ⟨_, ?_, rfl⟩
  have entry := Fraud.Engine.screenings_entry
    ((opened policy limits []).after earlier).screening c.arrivals i a present
  rw [c.run_screened, entry, opened_after, opened_after, flatMap_ofArrival]
  have split : (opened policy limits ([] ++ earlier.flatMap Call.arrivals)).screening.after
      (c.arrivals.take i) =
        (opened policy limits (earlier.flatMap Call.arrivals ++ c.arrivals.take i)).screening :=
    (Fraud.Engine.behind_append _ _ _ _ _).symm
  rw [split]
  exact congrArg some (Fraud.Engine.behind_own _ _ _ _ a)

end Session

/-! ## Several clients -/

section Clients

variable {ι : Type} [DecidableEq ι]

/-- The calls that one client makes. -/
def ownCalls (client : ι) (calls : List (ι × Call)) : List Call :=
  (calls.filter (·.1 = client)).map Prod.snd

/-- What one client sees of calls that several clients make by turns. -/
def Session.seenBy (client : ι) (s : Session) :
    List (ι × Call) → List (List String × Except Failure Answer)
  | [] => []
  | (who, c) :: later =>
    if who = client then (c.run s).seen :: seenBy client (c.run s).session later
    else seenBy client (c.run s).session later

/-- No principal is screened for two clients. -/
def Apart (calls : List (ι × Call)) : Prop :=
  ∀ x ∈ calls, ∀ y ∈ calls, x.1 ≠ y.1 → ∀ a ∈ x.2.arrivals, ∀ b ∈ y.2.arrivals,
    a.transaction.principal ≠ b.transaction.principal

variable {client : ι} {c : Call}

/-- Of what was screened before, a client's own transactions have met only its own calls. -/
theorem own_history {calls : List (ι × Call)} (apart : Apart calls) (member : (client, c) ∈ calls)
    (a : Arrival) (screened : a ∈ c.arrivals) (earlier : List (ι × Call)) (before : earlier ⊆ calls) :
    ((earlier.map Prod.snd).flatMap Call.arrivals).filter (·.isOf a.transaction.principal) =
      ((ownCalls client earlier).flatMap Call.arrivals).filter (·.isOf a.transaction.principal) := by
  induction earlier with
  | nil => rfl
  | cons x earlier ih =>
    have rest := ih fun y later => before (List.mem_cons_of_mem _ later)
    by_cases own : x.1 = client
    · simp [ownCalls, own] at rest ⊢
      exact rest
    · have foreign : x.2.arrivals.filter (·.isOf a.transaction.principal) = [] := by
        rw [List.filter_eq_nil_iff]
        intro b other same
        have different := apart (client, c) member x (before List.mem_cons_self) (Ne.symm own) a
          screened b other
        exact different (Eq.symm (by simpa [Arrival.isOf] using same))
      simpa [ownCalls, own, foreign] using rest

/-- A client sees of its own calls what it sees when nobody else makes any. -/
theorem seenBy_own (policy : Policy.Engine) (limits : Fraud.Limits) (client : ι)
    (earlier later : List (ι × Call)) (apart : Apart (earlier ++ later)) :
    Session.seenBy client ((Session.opened policy limits []).after (earlier.map Prod.snd)) later =
      ((Session.opened policy limits []).after (ownCalls client earlier)).observe
        (ownCalls client later) := by
  -- The calls that were made are moved over one by one, and with them what they have left.
  induction later generalizing earlier with
  | nil => rfl
  | cons x later ih =>
    obtain ⟨who, c⟩ := x
    have rest := ih (earlier ++ [(who, c)]) (by rwa [List.append_assoc])
    rw [List.map_append, Session.after_append] at rest
    rw [Session.seenBy]
    by_cases own : who = client
    · subst own
      have longer : ownCalls who (earlier ++ [(who, c)]) = ownCalls who earlier ++ [c] := by
        simp [ownCalls]
      have head : ownCalls who ((who, c) :: later) = c :: ownCalls who later := by simp [ownCalls]
      have same : (c.run ((Session.opened policy limits []).after (earlier.map Prod.snd))).seen =
          (c.run ((Session.opened policy limits []).after (ownCalls who earlier))).seen := by
        rw [Session.opened_after, Session.opened_after]
        refine Session.opened_seen policy limits c _ _ fun a screened => ?_
        exact own_history apart (by simp) a screened earlier fun y member => by simp [member]
      rw [longer, Session.after_append] at rest
      rw [if_pos rfl, head, Session.observe, same]
      exact congrArg _ rest
    · have shorter : ownCalls client (earlier ++ [(who, c)]) = ownCalls client earlier := by
        simp [ownCalls, own]
      have skipped : ownCalls client ((who, c) :: later) = ownCalls client later := by
        simp [ownCalls, own]
      rw [shorter] at rest
      rw [if_neg own, skipped]
      exact rest

end Clients

/-! ## The session of some thresholds -/

/-- On a session that was opened with valid thresholds, no step interferes with another. A command
that does not screen shows what it shows on a new session. A transaction is screened as it is on a
new session that has screened the earlier ones of its principal. Clients that share no principal
see what each would see alone. A step that fails leaves no trace. -/
theorem steps_independent (sources : Policy.Sources) (limits : Fraud.Limits) (files : Files)
    (valid : limits.validate = .ok ()) :
    ∃ fresh, Session.start sources limits files = .ok fresh ∧
      (∀ (earlier : List Call) (c : Call), c.command.screens = false →
        (c.run (fresh.after earlier)).seen = (c.run fresh).seen) ∧
      (∀ (earlier : List Call) (c : Call),
        (c.run (fresh.after earlier)).screened.length = c.arrivals.length ∧
        ∀ (i : Nat) (a : Arrival), c.arrivals[i]? = some a →
          let own := (earlier.flatMap Call.arrivals ++ c.arrivals.take i).filter
            (·.isOf a.transaction.principal)
          ∃ screening, (c.run (fresh.after earlier)).screened[i]? = some screening ∧
            ((Call.ofArrival a).run (fresh.after (own.map Call.ofArrival))).answer =
              .ok (.screening screening)) ∧
      (∀ (ι : Type) [DecidableEq ι] (calls : List (ι × Call)), Apart calls → ∀ client : ι,
        fresh.seenBy client calls = fresh.observe (ownCalls client calls)) ∧
      (∀ (earlier : List Call) (c : Call) (f : Failure), (c.run (fresh.after earlier)).answer = .error f →
        (c.run (fresh.after earlier)).session = fresh.after earlier) := by
  refine ⟨_, Session.start_opened sources limits files valid, ?_, ?_, ?_, ?_⟩
  · intro earlier c silent
    exact (c.run_silent _ silent _ (by rw [Session.opened_after]; rfl)).2.1
  · intro earlier c
    refine ⟨?_, fun i a present => Session.opened_screened _ limits earlier c i a present⟩
    rw [c.run_screened, Fraud.Engine.screenings_length]
  · intro ι _ calls apart client
    exact seenBy_own _ limits client [] calls apart
  · intro earlier c f failed
    exact c.run_failed _ failed

/-- Two clients by turns. One screens a principal twice; the other screens a different one, and
between the two names a file that is not there. -/
theorem steps_independent_of_failed_batch :
    let screen (id principal : String) (second : Int) : Call :=
      ⟨.screen ⟨id, 500, Currency.usd, principal⟩, .none, fun _ => second * 1000000000⟩
    let batch : Call := ⟨.screenBatch "missing.json", .none, fun _ => 2000000000⟩
    let calls : List (String × Call) :=
      [("north", screen "n1" "alice" 0), ("south", screen "s1" "bob" 1), ("south", batch),
        ("north", screen "n2" "alice" 3)]
    Fraud.Limits.validate ⟨100, 60, 1⟩ = .ok () ∧ Apart calls ∧
      ∃ fresh, Session.start .default ⟨100, 60, 1⟩ .none = .ok fresh ∧
        fresh.seenBy "north" calls =
          fresh.observe [screen "n1" "alice" 0, screen "n2" "alice" 3] := by
  intro screen batch calls
  have valid : Fraud.Limits.validate ⟨100, 60, 1⟩ = .ok () := by decide
  have unread : batch.arrivals = [] := rfl
  have apart : Apart calls := by
    simp [Apart, calls, unread]
    simp [screen, Call.arrivals, readings]
  obtain ⟨fresh, start, -, -, clients, -⟩ := steps_independent .default ⟨100, 60, 1⟩ .none valid
  exact ⟨valid, apart, fresh, start, clients String calls apart "north"⟩

end Clearance.App
