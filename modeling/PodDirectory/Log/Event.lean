import PodDirectory.Observation

/-!
# What is logged

One constructor for each thing that is worth a line. An event keeps the values that it is
about; how they are written is the business of `PodDirectory.Log.Line`.
-/

namespace PodDirectory

/-- Something that is logged. -/
inductive LogEvent where
  /-- The first listing of a kind counts as complete from here on. -/
  | kindMarked (kind : Kind)
  /-- A pod became known, and not by the first listing. -/
  | podAdded (record : PodRecord)
  | podUpdated (old new : PodRecord)
  | podDeleted (record : PodRecord)
  /-- A pod was given an address that another pod still held. -/
  | addressTakenOver (address : String) (previous current : PodKey)
  /-- A node became known by the first listing. -/
  | nodeListed (record : NodeRecord)
  | nodeAdded (record : NodeRecord)
  | nodeUpdated (record : NodeRecord)
  | nodeDeleted (record : NodeRecord)
  | sliceAdded (record : SliceRecord)
  | sliceDeleted (record : SliceRecord)
  /-- An update was dropped, since it would have changed the kind of an object. -/
  | updateDropped (old new : Kind)
  /-- An object was dropped, since it cannot be observed. -/
  | objectDropped (kind : Kind) (defect : Defect)
  | listingStarted (kind : Kind)
  /-- A known object was not in a complete listing. -/
  | vanished (kind : Kind) (ref : ObjectRef)
  /-- The first listing of a kind was completed, with so many objects known. -/
  | firstListing (kind : Kind) (objects : Nat)
  | syncComplete (pods : Int64)
  | syncFailed (pods : Int64)
  /-- So many watchers were started, for one namespace or for all. -/
  | watchersStarted (watchedNamespace : Option String) (watchers : Nat)
  /-- A feed had a failure to report, worded so. -/
  | watchFailed (wording : String)
  /-- A feed was over, with so many objects known. -/
  | feedOver (objects : Nat)
  /-- The watchers were given up, since one of them had stopped. -/
  | watcherStopped
deriving DecidableEq

end PodDirectory
