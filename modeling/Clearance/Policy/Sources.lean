import Clearance.Environment
import Clearance.Files
import Clearance.Policy.Scripted

/-! Where policies are looked for. A path that is named outright is used even if nothing is there;
otherwise the first location at which something stands is used. -/
namespace Clearance.Policy

structure Sources where
  regoPath : Option String
  jsonPath : Option String
  regoLocations : List String
  jsonLocations : List String
  query : String
  deriving DecidableEq, Repr

namespace Sources

/-- The usual places of a file, from the nearest on. -/
def locationsOf (fileName : String) : List String :=
  ["config/" ++ fileName, "../config/" ++ fileName, "../../config/" ++ fileName, fileName]

def default : Sources where
  regoPath := none
  jsonPath := none
  regoLocations := locationsOf "policies.rego"
  jsonLocations := locationsOf "policies.json"
  query := Scripted.defaultQuery

/-- Nothing is looked for. -/
def builtInOnly : Sources := { default with regoLocations := [], jsonLocations := [] }

def ofEnvironment (e : Environment) : Sources :=
  { default with
    regoPath := e.setting Environment.policyRego
    jsonPath := e.setting Environment.policyJson
    query := (e.setting Environment.policyQuery).getD Scripted.defaultQuery }

/-! ## Changes -/

inductive Change where
  | regoPath (path : String)
  | jsonPath (path : String)
  | query (text : String)
  | regoLocations (paths : List String)
  | jsonLocations (paths : List String)
  | withoutDiscovery
  deriving DecidableEq, Repr

def change (s : Sources) : Change → Sources
  | .regoPath path => { s with regoPath := some path }
  | .jsonPath path => { s with jsonPath := some path }
  | .query text => { s with query := text }
  | .regoLocations paths => { s with regoLocations := paths }
  | .jsonLocations paths => { s with jsonLocations := paths }
  | .withoutDiscovery => { s with regoLocations := [], jsonLocations := [] }

def changeAll (s : Sources) (changes : List Change) : Sources := changes.foldl change s

/-! ## Resolution -/

def resolve (files : Files) (named : Option String) (locations : List String) : Option String :=
  named <|> locations.find? files.pathExists

def rego? (s : Sources) (files : Files) : Option String := resolve files s.regoPath s.regoLocations

def json? (s : Sources) (files : Files) : Option String := resolve files s.jsonPath s.jsonLocations

end Sources

end Clearance.Policy
