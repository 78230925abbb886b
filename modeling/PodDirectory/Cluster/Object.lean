import PodDirectory.Kind
import PodDirectory.Cluster.Pod
import PodDirectory.Cluster.Node
import PodDirectory.Cluster.EndpointSlice
import Std.Data.ExtTreeSet

/-!
# Objects of any kind, and what identifies them

Every kind has its own type of objects, `k.Object`. Within a kind an object is identified
by its name and, if it has one, its namespace: `ObjectRef`. An object with an empty
namespace is not the one without any.
-/

namespace PodDirectory

namespace Kind

/-- The objects of a kind. -/
@[reducible] def Object : Kind → Type
  | pod => Pod
  | node => Node
  | endpointSlice => EndpointSlice

/-- The name of the kind in the cluster's interface. -/
def typeName : Kind → String
  | pod => "Pod"
  | node => "Node"
  | endpointSlice => "EndpointSlice"

/-- The group of interfaces that the kind belongs to; the core group has no name. -/
def group : Kind → String
  | pod => ""
  | node => ""
  | endpointSlice => "discovery.k8s.io"

/-- The version of the interface that is spoken. -/
def version (_ : Kind) : String := "v1"

/-- Group and version as an object states them. -/
def apiVersion (k : Kind) : String :=
  if k.group = "" then k.version else k.group ++ "/" ++ k.version

/-- The metadata of an object. -/
def metadata : (k : Kind) → k.Object → Metadata
  | pod, o => Pod.metadata o
  | node, o => Node.metadata o
  | endpointSlice, o => EndpointSlice.metadata o

/-- Decodes the members of an object of a kind. -/
def decodeMembers : (k : Kind) → List (String × Json) → Option k.Object
  | pod => Pod.decode
  | node => Node.decode
  | endpointSlice => EndpointSlice.decode

/-- **Decodes an object of a kind.** An object that states a type or a version has to
state the one of the kind. -/
def decode (k : Kind) (value : Json) : Option k.Object := do
  let members ← value.members?
  guard (Json.agrees members "apiVersion" k.apiVersion)
  guard (Json.agrees members "kind" k.typeName)
  k.decodeMembers members

end Kind

/-! ## Identity -/

/-- What identifies an object among those of its kind. -/
@[ext]
structure ObjectRef where
  name : String
  ns : Option String
deriving DecidableEq, Repr, Inhabited

namespace ObjectRef

/-- Refs are ordered by name, and by namespace where the names are equal. -/
instance : Ord ObjectRef := ⟨compareLex (compareOn ObjectRef.name) (compareOn ObjectRef.ns)⟩

instance : Std.TransOrd ObjectRef :=
  inferInstanceAs (Std.TransCmp (compareLex (compareOn ObjectRef.name) (compareOn ObjectRef.ns)))

instance : Std.LawfulEqOrd ObjectRef where
  eq_of_compare {a b} h := by
    have h' : compareLex (compareOn ObjectRef.name) (compareOn ObjectRef.ns) a b = .eq := h
    rw [compareLex_eq_eq] at h'
    simp only [compareOn, Std.LawfulEqCmp.compare_eq_iff_eq] at h'
    exact ObjectRef.ext h'.1 h'.2

/-- How a ref of a kind is written: type, version, group and name, then the namespace if
there is one. -/
def text (k : Kind) (ref : ObjectRef) : String :=
  k.typeName ++ "." ++ k.version ++ "." ++ k.group ++ "/" ++ ref.name ++
    match ref.ns with
    | some ns => "." ++ ns
    | none => ""

end ObjectRef

/-- The ref of an object. An object without a name has none. -/
def Kind.ref? (k : Kind) (o : k.Object) : Option ObjectRef :=
  (k.metadata o).name.map fun name => ⟨name, (k.metadata o).ns⟩

end PodDirectory
