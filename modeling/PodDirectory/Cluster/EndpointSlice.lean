import PodDirectory.Cluster.Metadata

/-!
# Endpoint slices

An endpoint slice as the cluster describes it: a part of the endpoints behind a service,
each with any number of addresses.
-/

namespace PodDirectory

/-- An endpoint, with the addresses it can be reached at. -/
structure Endpoint where
  addresses : List String := []
  hostname : Option String := none
deriving DecidableEq, Repr, Inhabited

/-- An endpoint slice as it is listed and watched. -/
structure EndpointSlice where
  metadata : Metadata := {}
  addressType : String := ""
  endpoints : List Endpoint := []
deriving DecidableEq, Inhabited

/-! ## Decoding -/

/-- Decodes an endpoint. -/
def Endpoint.decode (value : Json) : Option Endpoint := do
  let members ← value.members?
  return {
    addresses := ← Json.orElse [] (Json.list? Json.string?) members "addresses"
    hostname := ← Json.optional Json.string? members "hostname" }

/-- Decodes an endpoint slice from the members of an object. -/
def EndpointSlice.decode (members : List (String × Json)) : Option EndpointSlice := do
  return {
    metadata := ← Json.orElse {} Metadata.decode members "metadata"
    addressType := ← Json.orElse "" Json.string? members "addressType"
    endpoints := ← Json.orElse [] (Json.list? Endpoint.decode) members "endpoints" }

end PodDirectory
