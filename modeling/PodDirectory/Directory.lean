import PodDirectory.Directory.Addresses
import PodDirectory.Readiness
import PodDirectory.Steps

/-!
# The directory

The directory answers two questions about pods: which pod has this address, and what was
last seen of the pod of this name. It counts pods, endpoint slices and the addresses of
slices, and it knows whether the first listings were waited for with success.

It is told of changes by notices: an object was added, updated or deleted. Pods go into
two tables.

* Under its name stands the last record of a pod, until the pod is deleted.
* Under an address stands the pod that was given the address last. A pod that moves or is
  deleted releases its address, unless the address is another pod's by then.

Two pods whose names and namespaces give the same text share one place among the names.
The counters go round at 64 bits, and since they follow the notices, they drift when a
notice is missing or comes twice.
-/

namespace PodDirectory

open Std (ExtTreeMap)

/-- A change that the directory is told of. -/
inductive Notice where
  /-- An object became known; `initial` if the first listing of its kind made it so. -/
  | added (what : Observation) (initial : Bool)
  | updated (old new : Observation)
  | deleted (what : Observation)
deriving DecidableEq

/-- The pods by name and by address, the counters, and how far the first listings are. -/
@[ext]
structure Directory where
  readiness : Readiness
  logsNodeUpdates : Bool := false
  byName : ExtTreeMap String PodRecord := ∅
  byAddress : AddressTable := ∅
  pods : Int64 := 0
  slices : Int64 := 0
  sliceAddresses : Int64 := 0
  /-- Whether a wait for the first listings has succeeded. -/
  synced : Bool := false

/-- Directories are compared part by part, and tables by what stands in them. -/
instance : DecidableEq Directory := fun a b =>
  decidable_of_iff
    (a.readiness = b.readiness ∧ a.logsNodeUpdates = b.logsNodeUpdates ∧ a.byName = b.byName ∧
      a.byAddress = b.byAddress ∧ a.pods = b.pods ∧ a.slices = b.slices ∧
      a.sliceAddresses = b.sliceAddresses ∧ a.synced = b.synced)
    Directory.ext_iff.symm

/-- The counters and the sizes of the tables at one time. -/
structure DirectoryStats where
  pods : Int64
  slices : Int64
  sliceAddresses : Int64
  indexedAddresses : Nat
  indexedNames : Nat
  synced : Bool
deriving DecidableEq, Repr

namespace Directory

/-- The kinds whose first listing is waited for unless it is said otherwise. -/
def defaultRequired : KindSet := .ofList [.pod, .node]

/-- A directory that has seen nothing yet. -/
def new (required : KindSet) (logsNodeUpdates : Bool) : Directory where
  readiness := { required }
  logsNodeUpdates

/-! ## Questions -/

/-- The pod that has an address. -/
def findByAddress? (d : Directory) (address : String) : Option PodRecord := d.byAddress[address]?

/-- The pod of a name, which is its own name and its namespace with a dot between them. -/
def findByName? (d : Directory) (name : String) : Option PodRecord := d.byName[name]?

/-- The pod found under the text of a key. -/
def findByKey? (d : Directory) (key : PodKey) : Option PodRecord := d.findByName? key.text

/-- The counters and sizes. -/
def stats (d : Directory) : DirectoryStats where
  pods := d.pods
  slices := d.slices
  sliceAddresses := d.sliceAddresses
  indexedAddresses := d.byAddress.size
  indexedNames := d.byName.size
  synced := d.synced

/-! ## Pods -/

/-- The addresses after a pod has left the one it had, unless its record keeps it. -/
def vacated (d : Directory) (r : PodRecord) : AddressTable :=
  match d.byName[r.key.text]? with
  | none => d.byAddress
  | some previous =>
    if previous.address = r.address then d.byAddress
    else d.byAddress.release r.key previous.address

/-- **Makes a record the last one of its pod.** A pod that is new is counted, and one that
had another address leaves it. -/
def upsert (d : Directory) (r : PodRecord) : Directory :=
  { d with
    byName := d.byName.insert r.key.text r
    byAddress := (d.vacated r).assign r
    pods := if r.key.text ∈ d.byName then d.pods else d.pods + 1 }

/-- The addresses after a pod is gone. The delivered record may be older than the one under
its name, so the addresses of both are released. -/
def abandoned (d : Directory) (r : PodRecord) : AddressTable :=
  let delivered := d.byAddress.release r.key r.address
  match d.byName[r.key.text]? with
  | none => delivered
  | some stored => delivered.release r.key stored.address

/-- **Forgets a pod.** -/
def remove (d : Directory) (r : PodRecord) : Directory :=
  { d with
    byName := d.byName.erase r.key.text
    byAddress := d.abandoned r
    pods := if r.key.text ∈ d.byName then d.pods - 1 else d.pods }

/-- Under the name of a record stands the record from then on. -/
theorem findByName?_upsert (d : Directory) (r : PodRecord) (name : String) :
    (d.upsert r).findByName? name
      = if name = r.key.text then some r else d.findByName? name := by
  show (d.byName.insert r.key.text r)[name]? = _
  rw [ExtTreeMap.getElem?_insert]
  simp only [Std.LawfulEqCmp.compare_eq_iff_eq, eq_comm (a := name)]
  rfl

/-- Under the name of a pod that is forgotten stands nothing. -/
theorem findByName?_remove (d : Directory) (r : PodRecord) (name : String) :
    (d.remove r).findByName? name
      = if name = r.key.text then none else d.findByName? name := by
  show (d.byName.erase r.key.text)[name]? = _
  rw [ExtTreeMap.getElem?_erase]
  simp only [Std.LawfulEqCmp.compare_eq_iff_eq, eq_comm (a := name)]
  rfl

/-- Under the address of a record stands the record from then on. -/
theorem findByAddress?_upsert_self (d : Directory) (r : PodRecord) (h : r.address ≠ "") :
    (d.upsert r).findByAddress? r.address = some r := by
  show ((d.vacated r).assign r)[r.address]? = _
  rw [AddressTable.getElem?_assign]
  simp [h]

/-! ## Endpoint slices -/

/-- Changes the counters of slices and of their addresses. -/
def countSlices (d : Directory) (slices addresses : Int64) : Directory :=
  { d with slices := d.slices + slices, sliceAddresses := d.sliceAddresses + addresses }

/-- The number of addresses of a slice as a counter. -/
def addressesOf (s : SliceRecord) : Int64 := Int64.ofNat s.addressCount

/-! ## Notices -/

/-- Takes note of an object that became known. -/
def add (d : Directory) (initial : Bool) : Observation → Directory × List LogEvent
  | .pod r => (d.upsert r, (if initial then [] else [.podAdded r]) ++ (d.vacated r).takeover r)
  | .node r => (d, [if initial then .nodeListed r else .nodeAdded r])
  | .slice s => (d.countSlices 1 (addressesOf s), [.sliceAdded s])

/-- Takes note of an object that changed. An update that would change its kind is dropped. -/
def update (d : Directory) : Observation → Observation → Directory × List LogEvent
  | .pod old, .pod r => (d.upsert r, .podUpdated old r :: (d.vacated r).takeover r)
  | .node _, .node r => (d, if d.logsNodeUpdates then [.nodeUpdated r] else [])
  | .slice old, .slice s => (d.countSlices 0 (addressesOf s - addressesOf old), [])
  | old, new => (d, [.updateDropped old.kind new.kind])

/-- Takes note of an object that is gone. -/
def delete (d : Directory) : Observation → Directory × List LogEvent
  | .pod r => (d.remove r, [.podDeleted r])
  | .node r => (d, [.nodeDeleted r])
  | .slice s => (d.countSlices (-1) (-addressesOf s), [.sliceDeleted s])

/-- **Takes note of a change**: the directory after it, and what is logged. -/
def apply (d : Directory) : Notice → Directory × List LogEvent
  | .added what initial => d.add initial what
  | .updated old new => d.update old new
  | .deleted what => d.delete what

/-- Takes note of changes one after the other. -/
def applyAll (d : Directory) (notices : List Notice) : Directory × List LogEvent :=
  Steps.run apply d notices

/-! ## The first listings -/

/-- Marks a kind as listed. -/
def markListed (d : Directory) (k : Kind) : Directory × List LogEvent :=
  let (readiness, _, logged) := d.readiness.mark k
  ({ d with readiness }, logged)

/-- Draws the consequence of a look at a wait for the first listings. Success makes the
directory synced, and nothing undoes that. -/
def conclude (d : Directory) : WaitResult → Directory × List LogEvent
  | .ready => ({ d with synced := true }, [.syncComplete d.pods])
  | .cancelled => (d, [.syncFailed d.pods])
  | .pending => (d, [])

end Directory

end PodDirectory
