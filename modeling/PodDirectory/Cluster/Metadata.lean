import PodDirectory.Json

/-!
# Metadata

What every object of a cluster says about itself, whatever its kind. As of everything that the
cluster says, only the parts that are made use of are kept, and the others are not looked at.
-/

namespace PodDirectory

open Std (ExtTreeMap)

/-- The metadata of an object. -/
structure Metadata where
  name : Option String := none
  ns : Option String := none
  uid : Option String := none
  resourceVersion : Option String := none
  labels : Option (ExtTreeMap String String) := none
deriving DecidableEq, Inhabited

/-- Whether metadata say which version of the object this is. -/
def Metadata.isVersioned (m : Metadata) : Bool := m.resourceVersion.getD "" != ""

/-- Decodes metadata. -/
def Metadata.decode (value : Json) : Option Metadata := do
  let members ← value.members?
  return {
    name := ← Json.optional Json.string? members "name"
    ns := ← Json.optional Json.string? members "namespace"
    uid := ← Json.optional Json.string? members "uid"
    resourceVersion := ← Json.optional Json.string? members "resourceVersion"
    labels := ← Json.optional Json.table? members "labels" }

end PodDirectory
