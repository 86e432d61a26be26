/-! Roles, actions and resources are known by their names. Any name is valid; the ones listed here
are those the built-in tables speak of. -/
namespace Clearance

structure Role where
  name : String
  deriving DecidableEq, Repr

structure Action where
  name : String
  deriving DecidableEq, Repr

structure Resource where
  name : String
  deriving DecidableEq, Repr

namespace Role

def owner : Role := ⟨"owner"⟩
def admin : Role := ⟨"admin"⟩
def finance : Role := ⟨"finance"⟩
def developer : Role := ⟨"developer"⟩
def member : Role := ⟨"member"⟩

def known : List Role := [owner, admin, finance, developer, member]

end Role

namespace Action

def create : Action := ⟨"create"⟩
def read : Action := ⟨"read"⟩
def update : Action := ⟨"update"⟩
def delete : Action := ⟨"delete"⟩

/-- The wildcard. As a grant it covers every action; as a request it is an action like any other. -/
def all : Action := ⟨"*"⟩

def paymentCreate : Action := ⟨"payment.create"⟩
def refundCreate : Action := ⟨"refund.create"⟩
def zoneCreate : Action := ⟨"zone.create"⟩
def flowDeploy : Action := ⟨"flow.deploy"⟩

def known : List Action :=
  [create, read, update, delete, all, paymentCreate, refundCreate, zoneCreate, flowDeploy]

/-- The text before the first dot and the text behind it. -/
def splitAtDot : List Char → Option (List Char × List Char)
  | [] => none
  | c :: rest =>
    if c = '.' then some ([], rest)
    else (splitAtDot rest).map fun (before, behind) => (c :: before, behind)

/-- The resource and the verb of a qualified action such as `zone.create`. Neither may be empty;
the verb may hold further dots. -/
def qualified? (a : Action) : Option (String × String) :=
  match splitAtDot a.name.toList with
  | some (before, behind) =>
    if before.isEmpty || behind.isEmpty then none
    else some (String.ofList before, String.ofList behind)
  | none => none

end Action

namespace Resource

def zone : Resource := ⟨"zone"⟩
def flow : Resource := ⟨"flow"⟩
def ledger : Resource := ⟨"ledger"⟩
def transaction : Resource := ⟨"transaction"⟩
def apiKey : Resource := ⟨"api_key"⟩

def known : List Resource := [zone, flow, ledger, transaction, apiKey]

/-- The category that a resource belongs to. A name without a category of its own is one. -/
def canonical (r : Resource) : Resource :=
  if r.name ∈ ["api-key", "apikey"] then apiKey
  else if r.name ∈ ["payment", "payments", "refund", "refunds", "payout", "payouts"] then
    transaction
  else r

end Resource

/-! ## Order -/

/-- Puts a name into a list that is strictly increasing by code points; no name appears twice. -/
def insertName (name : String) : List String → List String
  | [] => [name]
  | other :: rest =>
    if name < other then name :: other :: rest
    else if name = other then other :: rest
    else other :: insertName name rest

/-- The distinct names in increasing order. -/
def sortedNames (names : List String) : List String := names.foldr insertName []

end Clearance
