import Clearance.Currency
import Clearance.Json.Value

/-! Transactions, what a rule finds about one, and the wire forms of both. -/
namespace Clearance.Fraud

/-- The amount counts minor units. The principal is the one whose transactions are counted. -/
structure Transaction where
  id : String
  amount : Int64
  currency : Currency
  principal : String
  deriving DecidableEq, Repr

/-- The outcome of one rule for one transaction. -/
structure Finding where
  rule : String
  passed : Bool
  message : Option String
  deriving DecidableEq, Repr

def Finding.pass (rule : String) : Finding := ⟨rule, true, none⟩

def Finding.fail (rule message : String) : Finding := ⟨rule, false, some message⟩

/-- The findings of all rules, in the order of the rules. -/
structure Screening where
  findings : List Finding
  isRisky : Bool
  deriving DecidableEq, Repr

namespace Screening

def ofFindings (findings : List Finding) : Screening := ⟨findings, findings.any (! ·.passed)⟩

def failed (s : Screening) : List Finding := s.findings.filter (! ·.passed)

end Screening

/-! ## Wire forms -/

open Json (Reader Value RecordShape required)

def currencyReader : Reader Currency :=
  Json.checkedString fun text => (Currency.ofText text).mapError CurrencyError.message

structure TransactionDraft where
  id : Option String := none
  amount : Option Int64 := none
  currency : Option Currency := none
  principal : Option String := none

def Transaction.shape : RecordShape TransactionDraft Transaction where
  kind := "Transaction"
  fields := [
    { name := "id", isSet := (·.id.isSome), required := true
      fill := fun d => Json.string.map fun x => { d with id := some x } },
    { name := "amount", isSet := (·.amount.isSome), required := true
      fill := fun d => Json.int64.map fun x => { d with amount := some x } },
    { name := "currency", isSet := (·.currency.isSome), required := true
      fill := fun d => currencyReader.map fun x => { d with currency := some x } },
    { name := "principal_id", isSet := (·.principal.isSome), required := true
      fill := fun d => Json.string.map fun x => { d with principal := some x } }]
  blank := {}
  finish := fun d => do
    return ⟨← required "id" d.id, ← required "amount" d.amount, ← required "currency" d.currency,
      ← required "principal_id" d.principal⟩

structure FindingDraft where
  rule : Option String := none
  passed : Option Bool := none
  message : Option (Option String) := none

def Finding.shape : RecordShape FindingDraft Finding where
  kind := "RuleResult"
  fields := [
    { name := "rule_name", isSet := (·.rule.isSome), required := true
      fill := fun d => Json.string.map fun x => { d with rule := some x } },
    { name := "passed", isSet := (·.passed.isSome), required := true
      fill := fun d => Json.boolean.map fun x => { d with passed := some x } },
    { name := "message", isSet := (·.message.isSome), required := false
      fill := fun d => (Json.optional Json.string).map fun x => { d with message := some x } }]
  blank := {}
  finish := fun d => do
    return ⟨← required "rule_name" d.rule, ← required "passed" d.passed, d.message.getD none⟩

structure ScreeningDraft where
  findings : Option (List Finding) := none
  isRisky : Option Bool := none

def Screening.shape : RecordShape ScreeningDraft Screening where
  kind := "ScreeningResult"
  fields := [
    { name := "results", isSet := (·.findings.isSome), required := true
      fill := fun d => (Json.list Finding.shape.reader).map fun x => { d with findings := some x } },
    { name := "is_risky", isSet := (·.isRisky.isSome), required := true
      fill := fun d => Json.boolean.map fun x => { d with isRisky := some x } }]
  blank := {}
  finish := fun d => do
    return ⟨← required "results" d.findings, ← required "is_risky" d.isRisky⟩

def batchReader : Reader (List Transaction) := Json.list Transaction.shape.reader

def Transaction.json (t : Transaction) : Value :=
  .object [("id", .string t.id), ("amount", .ofInt t.amount.toInt),
    ("currency", .string t.currency.code), ("principal_id", .string t.principal)]

def Finding.json (f : Finding) : Value :=
  .object <| [("rule_name", .string f.rule), ("passed", .boolean f.passed)] ++
    (f.message.map fun x => ("message", Value.string x)).toList

def Screening.json (s : Screening) : Value :=
  .object [("results", .array (s.findings.map Finding.json)), ("is_risky", .boolean s.isRisky)]

end Clearance.Fraud
