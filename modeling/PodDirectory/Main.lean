import PodDirectory.Watch.Target

/-!
# The command line

Reads the settings from the environment. If they can be used, it shows them and the paths
that a run under them lists and watches; if not, it says what is wrong with them.
-/

namespace PodDirectory.Main

/-- What is shown of settings that can be used. -/
def describe (s : Settings) : List String :=
  ("Configuration loaded: namespace=" ++ s.watchedNamespace.getD "*" ++
    ", watch_endpoint_slices=" ++ toString s.watchEndpointSlices) ::
    s.watchedKinds.map fun k => "Watching " ++ k.text ++ " objects under " ++ s.path k

/-- The variables of the environment that settings are read from. -/
def environment : IO (List (String × String)) := do
  let mut found := []
  for v in [Variable.watchNamespace, .watchEndpointSlices, .logNodeUpdates,
      .initialSyncTimeout, .statsInterval] do
    if let some value ← IO.getEnv v.name then
      found := (v.name, value) :: found
  return found

end PodDirectory.Main

/-- Shows the settings and what they amount to. -/
def main : IO UInt32 := do
  let environment ← PodDirectory.Main.environment
  match PodDirectory.Settings.read (fun name => environment.lookup name) with
  | .ok settings =>
    for line in PodDirectory.Main.describe settings do
      IO.println line
    return 0
  | .error e =>
    IO.eprintln ("Error: " ++ e.fault.message)
    return 1
