import PodDirectory.Kind

/-!
# Faults

What can go wrong, as the rest of the world sees it: an object that lacks what its kind
needs, an update that changes an object's kind, a wait for the first listings that was
cancelled, and settings that cannot be used. Two of them carry a reason, which the module
that finds the fault words itself.
-/

namespace PodDirectory

/-- A fault that is reported or logged. -/
inductive Fault where
  | malformedObject (kind : Kind) (reason : String)
  | kindMismatch (old new : Kind)
  | initialSyncCancelled
  | invalidSettings (reason : String)
deriving DecidableEq, Repr

/-- The wording of a fault. -/
def Fault.message : Fault → String
  | malformedObject kind reason => "Malformed " ++ kind.text ++ " object: " ++ reason
  | kindMismatch old new => "Update changed object kind from " ++ old.text ++ " to " ++ new.text
  | initialSyncCancelled => "Initial sync cancelled before all watchers listed their objects"
  | invalidSettings reason => "Invalid configuration: " ++ reason

end PodDirectory
