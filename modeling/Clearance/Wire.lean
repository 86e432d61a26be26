import Clearance.Fraud.Limits
import Clearance.Policy.Request

/-! The types that have a wire form, with the format of each. -/
namespace Clearance

open Json (Format Value)

inductive WireType where
  | role
  | action
  | resource
  | currency
  | backend
  | request
  | decision
  | transaction
  | batch
  | finding
  | screening
  | limits
  deriving DecidableEq, Repr

namespace WireType

/-- The values of a type. -/
def Carrier : WireType → Type
  | .role => Role
  | .action => Action
  | .resource => Resource
  | .currency => Currency
  | .backend => Policy.Backend
  | .request => Policy.Request
  | .decision => Policy.Decision
  | .transaction => Fraud.Transaction
  | .batch => List Fraud.Transaction
  | .finding => Fraud.Finding
  | .screening => Fraud.Screening
  | .limits => Fraud.Limits

def format : (w : WireType) → Format w.Carrier
  | .role => ⟨Policy.roleReader, fun r => .string r.name⟩
  | .action => ⟨Policy.actionReader, fun a => .string a.name⟩
  | .resource => ⟨Policy.resourceReader, fun r => .string r.name⟩
  | .currency => ⟨Fraud.currencyReader, fun c => .string c.code⟩
  | .backend => ⟨Policy.backendReader, fun b => .string b.name⟩
  | .request => ⟨Policy.Request.shape.reader, Policy.Request.json⟩
  | .decision => ⟨Policy.Decision.shape.reader, Policy.Decision.json⟩
  | .transaction => ⟨Fraud.Transaction.shape.reader, Fraud.Transaction.json⟩
  | .batch => ⟨Fraud.batchReader, fun ts => .array (ts.map Fraud.Transaction.json)⟩
  | .finding => ⟨Fraud.Finding.shape.reader, Fraud.Finding.json⟩
  | .screening => ⟨Fraud.Screening.shape.reader, Fraud.Screening.json⟩
  | .limits => ⟨Fraud.Limits.shape.reader, Fraud.Limits.json⟩

end WireType

end Clearance
