import PodDirectory.Cluster.Metadata

/-!
# Nodes

A node as the cluster describes it: its blocks of pod addresses and its own addresses,
each with a word for its type.
-/

namespace PodDirectory

/-- An address of a node. -/
structure NodeAddress where
  type : String := ""
  address : String := ""
deriving DecidableEq, Repr, Inhabited

/-- What a node is meant to be. -/
structure NodeSpec where
  podCIDR : Option String := none
  podCIDRs : Option (List String) := none
deriving DecidableEq, Repr, Inhabited

/-- What has become of a node. -/
structure NodeStatus where
  addresses : Option (List NodeAddress) := none
deriving DecidableEq, Repr, Inhabited

/-- A node as it is listed and watched. -/
structure Node where
  metadata : Metadata := {}
  spec : Option NodeSpec := none
  status : Option NodeStatus := none
deriving DecidableEq, Inhabited

/-! ## Decoding -/

/-- Decodes an address of a node. -/
def NodeAddress.decode (value : Json) : Option NodeAddress := do
  let members ← value.members?
  return {
    type := ← Json.orElse "" Json.string? members "type"
    address := ← Json.orElse "" Json.string? members "address" }

/-- Decodes the specification of a node. -/
def NodeSpec.decode (value : Json) : Option NodeSpec := do
  let members ← value.members?
  return {
    podCIDR := ← Json.optional Json.string? members "podCIDR"
    podCIDRs := ← Json.optional (Json.list? Json.string?) members "podCIDRs" }

/-- Decodes the status of a node. -/
def NodeStatus.decode (value : Json) : Option NodeStatus := do
  let members ← value.members?
  return { addresses := ← Json.optional (Json.list? NodeAddress.decode) members "addresses" }

/-- Decodes a node from the members of an object. -/
def Node.decode (members : List (String × Json)) : Option Node := do
  return {
    metadata := ← Json.orElse {} Metadata.decode members "metadata"
    spec := ← Json.optional NodeSpec.decode members "spec"
    status := ← Json.optional NodeStatus.decode members "status" }

end PodDirectory
