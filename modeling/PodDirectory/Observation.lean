import PodDirectory.Fault
import PodDirectory.Cluster.Object

/-!
# Observations

What the directory keeps of an object is a record of its kind: `PodRecord`, `NodeRecord`
or `SliceRecord`. An observation is a record of any kind.

An object can be observed if it has a name that is not empty; a pod needs a namespace
that is not empty as well. Nothing else can be wrong with a decoded object.
-/

namespace PodDirectory

/-! ## Records -/

/-- What identifies a pod: its name and its namespace. -/
@[ext]
structure PodKey where
  name : String
  ns : String
deriving DecidableEq, Repr, Inhabited

/-- The name under which a pod is found: its own name and its namespace, with a dot
between them. A name may contain dots itself, so that two keys can share one such text. -/
def PodKey.text (key : PodKey) : String := key.name ++ "." ++ key.ns

/-- The last observed state of a pod. -/
structure PodRecord where
  key : PodKey
  /-- The address of the pod, empty until it is given one. -/
  address : String := ""
  nodeName : Option String := none
  hostAddress : Option String := none
  /-- The pod as it was delivered. -/
  snapshot : Pod := {}
deriving DecidableEq, Inhabited

/-- What is logged of a node. -/
structure NodeRecord where
  name : String
  /-- Each address with its type before it, as in `InternalIP=10.128.0.2`. -/
  addresses : List String := []
  podCIDRs : List String := []
deriving DecidableEq, Repr, Inhabited

/-- What is counted of an endpoint slice. -/
structure SliceRecord where
  name : String
  ns : String
  /-- The number of addresses of all its endpoints. -/
  addressCount : Nat := 0
deriving DecidableEq, Repr, Inhabited

/-- The records of a kind. -/
@[reducible] def Kind.Record : Kind → Type
  | .pod => PodRecord
  | .node => NodeRecord
  | .endpointSlice => SliceRecord

instance (k : Kind) : DecidableEq k.Record :=
  match k with
  | .pod => inferInstanceAs (DecidableEq PodRecord)
  | .node => inferInstanceAs (DecidableEq NodeRecord)
  | .endpointSlice => inferInstanceAs (DecidableEq SliceRecord)

/-- A record of any kind. -/
inductive Observation where
  | pod (record : PodRecord)
  | node (record : NodeRecord)
  | slice (record : SliceRecord)
deriving DecidableEq, Inhabited

namespace Observation

/-- The kind of an observation. -/
def kind : Observation → Kind
  | pod _ => .pod
  | node _ => .node
  | slice _ => .endpointSlice

/-- A record of a known kind as an observation. -/
def ofRecord : (k : Kind) → k.Record → Observation
  | .pod, record => pod record
  | .node, record => node record
  | .endpointSlice, record => slice record

@[simp] theorem kind_ofRecord (k : Kind) (record : k.Record) : (ofRecord k record).kind = k := by
  cases k <;> rfl

end Observation

/-! ## Observing an object -/

/-- Why an object cannot be observed. -/
inductive Defect where
  | missingName
  /-- The pod of this name has no namespace. -/
  | missingNamespace (pod : String)
deriving DecidableEq, Repr

/-- The wording of a defect. -/
def Defect.reason : Defect → String
  | missingName => "missing metadata.name"
  | missingNamespace pod => "pod " ++ pod ++ " has no namespace"

/-- The fault that a defect of an object of a kind is reported as. -/
def Defect.fault (k : Kind) (d : Defect) : Fault := .malformedObject k d.reason

/-- A text that is there and not empty. -/
def nonempty? (text : Option String) : Option String := text.filter (· ≠ "")

theorem nonempty?_eq_some_iff {text : Option String} {s : String} :
    nonempty? text = some s ↔ text = some s ∧ s ≠ "" := by
  simp [nonempty?, Option.filter_eq_some_iff]

/-- The name of an object, which it cannot do without. -/
def Metadata.requiredName (m : Metadata) : Except Defect String :=
  match nonempty? m.name with
  | some name => .ok name
  | none => .error .missingName

theorem Metadata.requiredName_eq_ok_iff {m : Metadata} {name : String} :
    m.requiredName = .ok name ↔ m.name = some name ∧ name ≠ "" := by
  rw [← nonempty?_eq_some_iff]
  unfold requiredName
  cases nonempty? m.name <;> simp

/-- The record of a pod. -/
def PodRecord.ofPod (pod : Pod) : Except Defect PodRecord := do
  let name ← pod.metadata.requiredName
  match nonempty? pod.metadata.ns with
  | none => throw (.missingNamespace name)
  | some ns =>
    return {
      key := ⟨name, ns⟩
      address := (pod.status.bind (·.podIP)).getD ""
      nodeName := pod.spec.bind (·.nodeName)
      hostAddress := pod.status.bind (·.hostIP)
      snapshot := pod }

/-- The record of a node. -/
def NodeRecord.ofNode (node : Node) : Except Defect NodeRecord := do
  let name ← node.metadata.requiredName
  return {
    name
    addresses := ((node.status.bind (·.addresses)).getD []).map fun a => a.type ++ "=" ++ a.address
    podCIDRs := (node.spec.bind (·.podCIDRs)).getD [] }

/-- The record of an endpoint slice. A slice without a namespace is recorded with the
empty one. -/
def SliceRecord.ofSlice (slice : EndpointSlice) : Except Defect SliceRecord := do
  let name ← slice.metadata.requiredName
  return {
    name
    ns := slice.metadata.ns.getD ""
    addressCount := (slice.endpoints.flatMap (·.addresses)).length }

/-- **The record of an object**, of the object's kind. -/
def Kind.observe : (k : Kind) → k.Object → Except Defect k.Record
  | .pod => PodRecord.ofPod
  | .node => NodeRecord.ofNode
  | .endpointSlice => SliceRecord.ofSlice

namespace Kind

variable {k : Kind} {o : k.Object} {record : k.Record} {defect : Defect}

/-- Without a name nothing can be observed, whatever the kind. -/
theorem observe_of_requiredName (h : (k.metadata o).requiredName = .error defect) :
    k.observe o = .error defect := by
  cases k <;>
  · unfold metadata at h
    simp [observe, PodRecord.ofPod, NodeRecord.ofNode, SliceRecord.ofSlice, h, bind, Except.bind]

/-- **An object that can be observed has a ref.** -/
theorem isSome_ref?_of_observe (h : k.observe o = .ok record) : (k.ref? o).isSome := by
  cases hname : (k.metadata o).requiredName with
  | error defect =>
    rw [observe_of_requiredName hname] at h
    cases h
  | ok name => simp [ref?, (Metadata.requiredName_eq_ok_iff.mp hname).1]

end Kind

end PodDirectory
