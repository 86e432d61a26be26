import Clearance.Wire
import Clearance.Proofs.Currency
import Clearance.Proofs.Json.Record

/-! What is written of a value is read as that value, for every type that has a wire form. A record
is read back member by member, from the draft that its written members fill. -/
namespace Clearance

open Json (Reads RecordShape Value)

/-! ## Policies -/

namespace Policy

theorem reads_role (r : Role) : Reads roleReader (Value.string r.name).text r :=
  (Json.reads_string r.name).map Role.mk

theorem reads_action (a : Action) : Reads actionReader (Value.string a.name).text a :=
  (Json.reads_string a.name).map Action.mk

theorem reads_resource (r : Resource) : Reads resourceReader (Value.string r.name).text r :=
  (Json.reads_string r.name).map Resource.mk

theorem reads_backend (b : Backend) : Reads backendReader (Value.string b.name).text b := by
  apply Json.reads_variant
  cases b <;> rfl

theorem reads_roles (roles : List Role) :
    Reads (Json.list roleReader) (Value.ofStrings (roles.map (·.name))).text roles := by
  have reads := Json.reads_list (fun r : Role => .string r.name) roles fun r _ => reads_role r
  rwa [Value.ofStrings, List.map_map]

theorem reads_request (r : Request) : Reads Request.shape.reader r.json.text r := by
  obtain ⟨roles, action, resource⟩ := r
  cases resource with
  | none =>
    exact RecordShape.reads_object ⟨some roles, some action, none⟩ rfl <|
      .field _ rfl rfl ((reads_roles roles).map _) <|
        .field _ rfl rfl ((reads_action action).map _) (.nil _)
  | some resource =>
    have present := Json.reads_optional (reads_resource resource)
    exact RecordShape.reads_object ⟨some roles, some action, some (some resource)⟩ rfl <|
      .field _ rfl rfl ((reads_roles roles).map _) <|
        .field _ rfl rfl ((reads_action action).map _) <|
          .field _ rfl rfl (present.map _) (.nil _)

theorem reads_decision (d : Decision) : Reads Decision.shape.reader d.json.text d := by
  obtain ⟨allowed, reason, rules⟩ := d
  exact RecordShape.reads_object ⟨some allowed, some reason, some rules⟩ rfl <|
    .field _ rfl rfl ((Json.reads_boolean allowed).map _) <|
      .field _ rfl rfl ((Json.reads_string reason).map _) <|
        .field _ rfl rfl ((Json.reads_strings rules).map _) (.nil _)

end Policy

/-! ## Screening -/

namespace Fraud

theorem reads_currency (c : Currency) : Reads currencyReader (Value.string c.code).text c :=
  Json.reads_checkedString (by rw [c.ofText_code]; rfl)

theorem reads_transaction (t : Transaction) : Reads Transaction.shape.reader t.json.text t := by
  obtain ⟨id, amount, currency, principal⟩ := t
  exact RecordShape.reads_object ⟨some id, some amount, some currency, some principal⟩ rfl <|
    .field _ rfl rfl ((Json.reads_string id).map _) <|
      .field _ rfl rfl ((Json.reads_int64 amount).map _) <|
        .field _ rfl rfl ((reads_currency currency).map _) <|
          .field _ rfl rfl ((Json.reads_string principal).map _) (.nil _)

theorem reads_batch (ts : List Transaction) :
    Reads batchReader (Value.array (ts.map Transaction.json)).text ts :=
  Json.reads_list Transaction.json ts fun t _ => reads_transaction t

theorem reads_finding (f : Finding) : Reads Finding.shape.reader f.json.text f := by
  obtain ⟨rule, passed, message⟩ := f
  cases message with
  | none =>
    exact RecordShape.reads_object ⟨some rule, some passed, none⟩ rfl <|
      .field _ rfl rfl ((Json.reads_string rule).map _) <|
        .field _ rfl rfl ((Json.reads_boolean passed).map _) (.nil _)
  | some message =>
    have present := Json.reads_optional (Json.reads_string message)
    exact RecordShape.reads_object ⟨some rule, some passed, some (some message)⟩ rfl <|
      .field _ rfl rfl ((Json.reads_string rule).map _) <|
        .field _ rfl rfl ((Json.reads_boolean passed).map _) <|
          .field _ rfl rfl (present.map _) (.nil _)

theorem reads_screening (s : Screening) : Reads Screening.shape.reader s.json.text s := by
  obtain ⟨findings, isRisky⟩ := s
  have reads := Json.reads_list Finding.json findings fun f _ => reads_finding f
  exact RecordShape.reads_object ⟨some findings, some isRisky⟩ rfl <|
    .field _ rfl rfl (reads.map _) <|
      .field _ rfl rfl ((Json.reads_boolean isRisky).map _) (.nil _)

theorem reads_limits (l : Limits) : Reads Limits.shape.reader l.json.text l := by
  obtain ⟨amountLimit, windowSeconds, threshold⟩ := l
  exact RecordShape.reads_object ⟨some amountLimit, some windowSeconds, some threshold⟩ rfl <|
    .field _ rfl rfl ((Json.reads_int64 amountLimit).map _) <|
      .field _ rfl rfl ((Json.reads_uint64 windowSeconds).map _) <|
        .field _ rfl rfl ((Json.reads_uint32 threshold).map _) (.nil _)

end Fraud

/-! ## All types -/

namespace WireType

theorem format_keeps (w : WireType) : w.format.Keeps := by
  cases w with
  | role => exact Policy.reads_role
  | action => exact Policy.reads_action
  | resource => exact Policy.reads_resource
  | currency => exact Fraud.reads_currency
  | backend => exact Policy.reads_backend
  | request => exact Policy.reads_request
  | decision => exact Policy.reads_decision
  | transaction => exact Fraud.reads_transaction
  | batch => exact Fraud.reads_batch
  | finding => exact Fraud.reads_finding
  | screening => exact Fraud.reads_screening
  | limits => exact Fraud.reads_limits

/-- Reading undoes writing. A text that can be read at all is settled by writing it anew once: from
then on it stays as it is. -/
theorem reading_undoes_writing (w : WireType) :
    (∀ v : w.Carrier, w.format.decode (w.format.encode v) = .ok v) ∧
      ∀ text : String, (w.format.rewrite text).bind w.format.rewrite = w.format.rewrite text :=
  ⟨Json.Format.decode_encode w.format_keeps, Json.Format.rewrite_rewrite w.format_keeps⟩

end WireType

end Clearance
