import PodDirectory.Directory

/-!
# Following the objects of one kind

The objects of a kind are listed first and watched afterwards, and when the watching
breaks off they are listed again. What arrives is a sequence of `WatchEvent`s. A tracker
remembers the last record of every object that it knows of, and turns the events into
notices for the directory.

* An object that is not known is added, and a known one is updated from its last record.
* Objects that are known and not in a complete listing have gone unnoticed; they are
  deleted when the listing is done. A listing that was broken off deletes nothing.
* A deletion that is watched is passed on with the record of the delivered object, whether
  the object is known or not.
* An object that cannot be observed is dropped with a line in the log.

To ask an object without a name for its ref is a crash, which is the end of whoever asks. A tracker
asks only after it has observed the object, and then there is a name; so it never crashes
(`Tracker.isSome_stepOrCrash`), and `Tracker.step` is what it does.

A tracker never looks at the directory: what it does is a list of `Effect`s.
-/

namespace PodDirectory

open Std (ExtTreeMap ExtTreeSet)

/-- An event of listing and watching the objects of a kind. -/
inductive WatchEvent (k : Kind) where
  /-- A listing starts, or starts over. -/
  | listingStarted
  /-- An object of the listing. -/
  | listed (object : k.Object)
  /-- The listing is complete. -/
  | listingDone
  /-- An object was created or changed while it was watched. -/
  | changed (object : k.Object)
  /-- An object was deleted while it was watched. -/
  | deleted (object : k.Object)

/-- What a tracker wants done. -/
inductive Effect where
  | log (event : LogEvent)
  /-- The directory is told of a change of one object. -/
  | notify (ref : ObjectRef) (notice : Notice)
  | markListed (kind : Kind)
deriving DecidableEq

namespace Kind

/-- What is observed of an object: its ref and its record, or `none` if this is a crash. -/
def identifyOrCrash (k : Kind) (o : k.Object) : Option (Except Defect (ObjectRef × k.Record)) :=
  match k.observe o with
  | .error defect => some (.error defect)
  | .ok record => (k.ref? o).map fun ref => .ok (ref, record)

/-- An object with a record has a ref, so that this is never a crash. -/
theorem isSome_identifyOrCrash (k : Kind) (o : k.Object) : (k.identifyOrCrash o).isSome := by
  unfold identifyOrCrash
  cases h : k.observe o with
  | error defect => rfl
  | ok record => exact Option.isSome_map.trans (isSome_ref?_of_observe h)

/-- **What is observed of an object**: its ref and its record. -/
def identify (k : Kind) (o : k.Object) : Except Defect (ObjectRef × k.Record) :=
  (k.identifyOrCrash o).get (k.isSome_identifyOrCrash o)

theorem identifyOrCrash_eq (k : Kind) (o : k.Object) : k.identifyOrCrash o = some (k.identify o) :=
  (Option.some_get _).symm

section Identify

variable {k : Kind} {o : k.Object}

theorem identify_eq_ok_iff {ref : ObjectRef} {record : k.Record} :
    k.identify o = .ok (ref, record) ↔ k.observe o = .ok record ∧ k.ref? o = some ref := by
  rw [← Option.some.injEq, ← identifyOrCrash_eq]
  unfold identifyOrCrash
  cases k.observe o <;> simp [and_comm, and_left_comm]

/-- An object cannot be identified if it cannot be observed, and for the same reason. -/
theorem identify_eq_error_iff {defect : Defect} :
    k.identify o = .error defect ↔ k.observe o = .error defect := by
  rw [← Option.some.injEq, ← identifyOrCrash_eq]
  unfold identifyOrCrash
  cases k.observe o <;> simp

end Identify

end Kind

/-- What is remembered of the objects of a kind. -/
@[ext]
structure Tracker (k : Kind) where
  /-- The last record of every known object. -/
  known : ExtTreeMap ObjectRef k.Record := ∅
  /-- The objects seen so far by the listing under way, if there is one. -/
  listing : Option (ExtTreeSet ObjectRef) := none
  /-- Whether a listing has been completed. -/
  listedOnce : Bool := false

/-- Trackers are compared by what they know and what they have seen. -/
instance (k : Kind) : DecidableEq (Tracker k) := fun a b =>
  decidable_of_iff (a.known = b.known ∧ a.listing = b.listing ∧ a.listedOnce = b.listedOnce)
    Tracker.ext_iff.symm

namespace Tracker

variable {k : Kind}

/-! ## Single objects -/

/-- The notice by which a record is passed on. -/
def noticeOf (t : Tracker k) (ref : ObjectRef) (record : k.Record) (initial : Bool) : Notice :=
  match t.known[ref]? with
  | some old => .updated (.ofRecord k old) (.ofRecord k record)
  | none => .added (.ofRecord k record) initial

/-- Remembers a record and passes it on. -/
def deliver (t : Tracker k) (ref : ObjectRef) (record : k.Record) (initial : Bool) :
    Tracker k × List Effect :=
  ({ t with known := t.known.insert ref record }, [.notify ref (t.noticeOf ref record initial)])

/-- Takes note that the listing under way, if there is one, has an object. -/
def see (t : Tracker k) (ref : ObjectRef) : Tracker k :=
  { t with listing := t.listing.map (·.insert ref) }

/-- Forgets an object that was deleted while it was watched. -/
def delete (t : Tracker k) (ref : ObjectRef) (record : k.Record) : Tracker k × List Effect :=
  ({ t with known := t.known.erase ref }, [.notify ref (.deleted (.ofRecord k record))])

/-- Does what is to be done with what was observed of an object, or drops the object. -/
def handle (t : Tracker k) (act : ObjectRef → k.Record → Tracker k × List Effect) :
    Except Defect (ObjectRef × k.Record) → Tracker k × List Effect
  | .ok (ref, record) => act ref record
  | .error defect => (t, [.log (.objectDropped k defect)])

/-- Observes an object, which may be a crash, and does what is to be done with it. -/
def observingOrCrash (t : Tracker k) (o : k.Object)
    (act : ObjectRef → k.Record → Tracker k × List Effect) : Option (Tracker k × List Effect) :=
  (k.identifyOrCrash o).map (t.handle act)

theorem observingOrCrash_eq (t : Tracker k) (o : k.Object)
    (act : ObjectRef → k.Record → Tracker k × List Effect) :
    t.observingOrCrash o act = some (t.handle act (k.identify o)) := by
  rw [observingOrCrash, Kind.identifyOrCrash_eq, Option.map_some]

/-! ## The end of a listing -/

/-- The known objects that the listing under way has not seen, in the order of their refs.
Without a listing there are none. -/
def vanished (t : Tracker k) : List ObjectRef :=
  match t.listing with
  | some seen => t.known.keys.filter fun ref => !seen.contains ref
  | none => []

/-- Forgets known objects one by one and passes on that they are gone, each with its last
record. -/
def forget (t : Tracker k) : List ObjectRef → Tracker k × List Effect
  | [] => (t, [])
  | ref :: rest =>
    match t.known[ref]? with
    | none => t.forget rest
    | some last =>
      let (next, effects) := forget { t with known := t.known.erase ref } rest
      (next, .log (.vanished k ref) :: .notify ref (.deleted (.ofRecord k last)) :: effects)

/-- Completes the listing, deleting the vanished objects in the order given. -/
def finishListing (t : Tracker k) (gone : List ObjectRef) : Tracker k × List Effect :=
  let (left, effects) := forget { t with listing := none } gone
  let first := if t.listedOnce then [] else [.log (.firstListing k left.known.size)]
  ({ left with listedOnce := true }, effects ++ first ++ [.markListed k])

/-! ## Events -/

/-- Takes an event: the tracker after it, and what is to be done, in order, or `none` if this is a
crash. -/
def stepOrCrash (t : Tracker k) : WatchEvent k → Option (Tracker k × List Effect)
  | .listingStarted => some ({ t with listing := some ∅ }, [.log (.listingStarted k)])
  | .listed o =>
    t.observingOrCrash o fun ref record => (t.see ref).deliver ref record (!t.listedOnce)
  | .listingDone => some (t.finishListing t.vanished)
  | .changed o => t.observingOrCrash o fun ref record => t.deliver ref record false
  | .deleted o => t.observingOrCrash o fun ref record => t.delete ref record

/-- **No event makes a tracker crash.** -/
theorem isSome_stepOrCrash (t : Tracker k) (e : WatchEvent k) : (t.stepOrCrash e).isSome := by
  cases e with
  | listingStarted | listingDone => rfl
  | listed o | changed o | deleted o => simp [stepOrCrash, observingOrCrash_eq]

/-- **Takes an event**: the tracker after it, and what is to be done, in order. -/
def step (t : Tracker k) (e : WatchEvent k) : Tracker k × List Effect :=
  (t.stepOrCrash e).get (t.isSome_stepOrCrash e)

/-- Takes events one after the other. -/
def run (t : Tracker k) (events : List (WatchEvent k)) : Tracker k × List Effect :=
  Steps.run step t events

/-- Takes events one after the other, up to the first crash. -/
def runOrCrash (t : Tracker k) : List (WatchEvent k) → Option (Tracker k × List Effect)
  | [] => some (t, [])
  | e :: events => do
    let (next, effects) ← t.stepOrCrash e
    let (last, more) ← next.runOrCrash events
    return (last, effects ++ more)

section Step

variable (t : Tracker k)

theorem stepOrCrash_eq (e : WatchEvent k) : t.stepOrCrash e = some (t.step e) :=
  (Option.some_get _).symm

theorem step_listed (o : k.Object) : t.step (.listed o)
    = t.handle (fun ref record => (t.see ref).deliver ref record (!t.listedOnce)) (k.identify o) :=
  Option.some.inj ((t.stepOrCrash_eq _).symm.trans (t.observingOrCrash_eq o _))

theorem step_changed (o : k.Object) : t.step (.changed o)
    = t.handle (fun ref record => t.deliver ref record false) (k.identify o) :=
  Option.some.inj ((t.stepOrCrash_eq _).symm.trans (t.observingOrCrash_eq o _))

theorem step_deleted (o : k.Object) : t.step (.deleted o)
    = t.handle (fun ref record => t.delete ref record) (k.identify o) :=
  Option.some.inj ((t.stepOrCrash_eq _).symm.trans (t.observingOrCrash_eq o _))

end Step

end Tracker

/-! ## Effects on the directory -/

namespace Directory

/-- Does what a tracker wants done. -/
def perform (d : Directory) : Effect → Directory × List LogEvent
  | .log event => (d, [event])
  | .notify _ notice => d.apply notice
  | .markListed k => d.markListed k

/-- Does a list of things in order. -/
def performAll (d : Directory) (effects : List Effect) : Directory × List LogEvent :=
  Steps.run perform d effects

end Directory

end PodDirectory
