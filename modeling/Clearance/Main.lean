import Clearance.App.Exit
import Clearance.App.FreshId

/-! The command line program: it looks at the files that a run may need, lets the run be computed,
and prints what comes of it. -/
namespace Clearance

/-- Error numbers may come with either sign. -/
def failureOf (code : UInt32) (details : String) : ReadFailure :=
  let code := if code < 0x80000000 then code else 0 - code
  if code = 2 then .notFound
  else if code = 20 then .notDirectory
  else if code = 21 then .isDirectory
  else if code = 36 then .nameTooLong
  else .other (details ++ " (os error " ++ toString code.toNat ++ ")")

def failureOfError : IO.Error → ReadFailure
  | .noFileOrDirectory _ code details => failureOf code details
  | .inappropriateType _ code details => failureOf code details
  | .invalidArgument _ code details => failureOf code details
  | .permissionDenied _ code details => failureOf code details
  | .otherError code details => failureOf code details
  | e => .other e.toString

/-- Whether something stands at a path, be it readable or not. -/
def standsAt (path : String) : IO Bool := do
  try
    discard <| IO.FS.realPath path
    return true
  catch _ => return false

def entryAt (path : String) : IO Entry := do
  try return .file (← IO.FS.readBinFile path)
  catch e =>
    let reason := failureOfError e
    if reason = .isDirectory then return .directory
    else if ← standsAt path then return .unreadable reason
    else return .absent reason

def lookAt (paths : List String) : IO Files := do
  let entries ← paths.mapM fun path => do return (path, ← entryAt path)
  return fun path => (entries.lookup path).getD (.absent .notFound)

def readEnvironment : IO Environment := do
  let settings ← Environment.names.mapM fun name => do return (name, ← IO.getEnv name)
  return fun name => (settings.lookup name).join

def pathsOf (words : List String) (e : Environment) : List String :=
  match App.CommandLine.parse words with
  | .ok i => i.paths e
  | .error _ => []

def perform (words : List String) : IO UInt32 := do
  let environment ← readEnvironment
  let files ← lookAt (pathsOf words environment)
  let freshId := App.FreshId.ofBytes (← IO.getRandomBytes 16).toList
  let now ← IO.monoNanosNow
  let exit := App.run words ⟨environment, files, freshId, fun _ => now⟩
  IO.print (exit.output (.showing .info))
  IO.eprint exit.errors
  return exit.status

end Clearance

def main (words : List String) : IO UInt32 := Clearance.perform words
