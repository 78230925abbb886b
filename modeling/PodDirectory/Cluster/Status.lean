import PodDirectory.Json

/-!
# Statuses

What a cluster says when a request cannot be served: a word on how it went, a code, and
texts that explain it.
-/

namespace PodDirectory

/-- The status of a request. -/
structure Status where
  status : String
  message : String := ""
  reason : String := ""
  code : UInt16
deriving DecidableEq, Repr, Inhabited

/-- The code that says that the past is gone. -/
def Status.gone : UInt16 := 410

/-- Decodes a status: an object with its members, or a list of all four in their order. It
has to have its word and its code, and a text that is there is not `null`. -/
def Status.decode : Json → Option Status
  | .arr [.str status, .str message, .str reason, code] => do
    return { status, message, reason, code := ← code.uint16? }
  | value => do
    let members ← value.members?
    return {
      status := ← Json.required Json.string? members "status"
      message := ← Json.string? ((members.lookup "message").getD (.str ""))
      reason := ← Json.string? ((members.lookup "reason").getD (.str ""))
      code := ← Json.required Json.uint16? members "code" }

end PodDirectory
