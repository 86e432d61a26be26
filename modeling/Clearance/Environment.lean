import Clearance.Text.Blank

/-! Settings that the surroundings of a process give by name. A value that is no text is not seen at
all. -/
namespace Clearance

abbrev Environment := String → Option String

namespace Environment

def policyRego : String := "WARDEN_POLICY_REGO"
def policyJson : String := "WARDEN_POLICY_JSON"
def policyQuery : String := "WARDEN_POLICY_QUERY"
def fraudConfig : String := "WARDEN_FRAUD_CONFIG"

def names : List String := [policyRego, policyJson, policyQuery, fraudConfig]

def none : Environment := fun _ => .none

/-- The value of a name, blanks included. A blank value counts as none. -/
def setting (e : Environment) (name : String) : Option String :=
  (e name).filter fun value => ! Text.allBlank value

end Environment

end Clearance
