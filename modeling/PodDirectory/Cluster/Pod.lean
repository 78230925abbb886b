import PodDirectory.Cluster.Metadata

/-!
# Pods

A pod as the cluster describes it. A part that is missing differs from one that is empty:
an empty node selector is not the same as none.

The cluster says much more about pods. What is not among the parts here is not looked at when a pod
is decoded, so that it cannot spoil the pod, and specifications that differ in nothing else are the
same: whether the specification of a pod has changed is said of these parts alone.
-/

namespace PodDirectory

open Std (ExtTreeMap)

/-- A container of a pod. Every container has a name, and it may be without an image. -/
structure Container where
  name : String := ""
  image : Option String := none
deriving DecidableEq, Repr, Inhabited

/-- What a pod is meant to be. -/
structure PodSpec where
  nodeName : Option String := none
  serviceAccountName : Option String := none
  schedulerName : Option String := none
  hostNetwork : Option Bool := none
  priority : Option Int32 := none
  nodeSelector : Option (ExtTreeMap String String) := none
  containers : List Container := []
deriving DecidableEq, Inhabited

/-- What has become of a pod. -/
structure PodStatus where
  podIP : Option String := none
  hostIP : Option String := none
  phase : Option String := none
  podIPs : Option (List String) := none
deriving DecidableEq, Repr, Inhabited

/-- A pod as it is listed and watched. -/
structure Pod where
  metadata : Metadata := {}
  spec : Option PodSpec := none
  status : Option PodStatus := none
deriving DecidableEq, Inhabited

/-! ## Decoding -/

/-- Decodes a container. -/
def Container.decode (value : Json) : Option Container := do
  let members ← value.members?
  return {
    name := ← Json.orElse "" Json.string? members "name"
    image := ← Json.optional Json.string? members "image" }

/-- Decodes the specification of a pod. -/
def PodSpec.decode (value : Json) : Option PodSpec := do
  let members ← value.members?
  return {
    nodeName := ← Json.optional Json.string? members "nodeName"
    serviceAccountName := ← Json.optional Json.string? members "serviceAccountName"
    schedulerName := ← Json.optional Json.string? members "schedulerName"
    hostNetwork := ← Json.optional Json.bool? members "hostNetwork"
    priority := ← Json.optional Json.int32? members "priority"
    nodeSelector := ← Json.optional Json.table? members "nodeSelector"
    containers := ← Json.orElse [] (Json.list? Container.decode) members "containers" }

/-- Decodes one address of a pod, an object with the member `ip`. -/
def PodStatus.decodeAddress (value : Json) : Option String := do
  Json.orElse "" Json.string? (← value.members?) "ip"

/-- Decodes the status of a pod. -/
def PodStatus.decode (value : Json) : Option PodStatus := do
  let members ← value.members?
  return {
    podIP := ← Json.optional Json.string? members "podIP"
    hostIP := ← Json.optional Json.string? members "hostIP"
    phase := ← Json.optional Json.string? members "phase"
    podIPs := ← Json.optional (Json.list? PodStatus.decodeAddress) members "podIPs" }

/-- Decodes a pod from the members of an object. -/
def Pod.decode (members : List (String × Json)) : Option Pod := do
  return {
    metadata := ← Json.orElse {} Metadata.decode members "metadata"
    spec := ← Json.optional PodSpec.decode members "spec"
    status := ← Json.optional PodStatus.decode members "status" }

end PodDirectory
