import PodDirectory.Proofs.PodAgreement
import PodDirectory.Proofs.TrackerContract

/-!
# What a record and a ref say of an object

An object is known under its ref, and told of by its record. The two are made by themselves: the
record of what its kind needs, and the ref of the name and the namespace as they are. How far they
agree is told here.

An object can be observed if it has a name, and a pod if it has a namespace too
(`Kind.exists_observe_eq_ok_iff`), so that this can be told from its ref. The name in a record is
always the name in the ref (`Kind.ref?_of_observe`). Pods have the same ref exactly if their records
have the same key. Of nodes and endpoint slices only one direction is true. The record of a node
leaves the namespace out, and the one of a slice says no namespace and the empty one alike.

An object without a name has no ref, and there is no way on for someone who asks for it. A tracker
never does: it asks for the ref of an object when it has its record, and then there is a name
(`Tracker.runOrCrash_eq`).
-/

namespace PodDirectory

open Std (ExtTreeMap)

/-! ## What can be observed -/

namespace Metadata

/-- **What metadata have to say of an object of a kind**: its name, and of a pod its namespace too.
Neither of them may be empty. -/
def Suffices (m : Metadata) (k : Kind) : Prop :=
  (∃ name ∈ m.name, name ≠ "") ∧ (k = .pod → ∃ ns ∈ m.ns, ns ≠ "")

instance (m : Metadata) (k : Kind) : Decidable (m.Suffices k) :=
  inferInstanceAs (Decidable ((∃ name ∈ m.name, name ≠ "") ∧ (k = .pod → ∃ ns ∈ m.ns, ns ≠ "")))

end Metadata

/-- A pod has a record if it has a name and a namespace. -/
theorem PodRecord.exists_ofPod_eq_ok_iff {pod : Pod} :
    (∃ r, ofPod pod = .ok r) ↔
      ∃ name ns, pod.metadata.requiredName = .ok name ∧ nonempty? pod.metadata.ns = some ns := by
  unfold ofPod
  cases pod.metadata.requiredName with
  | error defect => simp [bind, Except.bind]
  | ok name => cases nonempty? pod.metadata.ns <;> simp [bind, Except.bind, pure, Except.pure]

namespace Kind

/-- The name that a record says. -/
def nameIn : (k : Kind) → k.Record → String
  | pod => fun r : PodRecord => r.key.name
  | node => fun r : NodeRecord => r.name
  | endpointSlice => fun s : SliceRecord => s.name

variable {k : Kind} {o o' : k.Object} {record record' : k.Record} {defect : Defect}

/-- The name in a record is the one that the object has to have. -/
theorem requiredName_of_observe (h : k.observe o = .ok record) :
    (k.metadata o).requiredName = .ok (k.nameIn record) := by
  cases hname : (k.metadata o).requiredName with
  | error defect =>
    rw [observe_of_requiredName hname] at h
    cases h
  | ok name =>
    refine congrArg Except.ok ?_
    unfold metadata at hname
    cases k with
    | pod =>
      simp only [observe, PodRecord.ofPod, hname, bind, Except.bind] at h
      split at h <;> cases h
      rfl
    | node =>
      simp only [observe, NodeRecord.ofNode, hname, bind, Except.bind] at h
      cases h
      rfl
    | endpointSlice =>
      simp only [observe, SliceRecord.ofSlice, hname, bind, Except.bind] at h
      cases h
      rfl

/-- **Which objects can be observed**: those whose metadata say what the kind needs. -/
theorem exists_observe_eq_ok_iff :
    (∃ record, k.observe o = .ok record) ↔ (k.metadata o).Suffices k := by
  have hname : (∃ name, (k.metadata o).requiredName = .ok name) ↔
      ∃ name ∈ (k.metadata o).name, name ≠ "" :=
    exists_congr fun name => Metadata.requiredName_eq_ok_iff
  unfold Metadata.Suffices
  rw [← hname]
  cases hrequired : (k.metadata o).requiredName with
  | error defect => simp [observe_of_requiredName hrequired]
  | ok name =>
    unfold metadata at hrequired
    cases k with
    | pod =>
      refine PodRecord.exists_ofPod_eq_ok_iff.trans ?_
      simp [metadata, hrequired, nonempty?_eq_some_iff]
    | node => simp [observe, NodeRecord.ofNode, hrequired, bind, Except.bind, pure, Except.pure]
    | endpointSlice =>
      simp [observe, SliceRecord.ofSlice, hrequired, bind, Except.bind, pure, Except.pure]

/-! ## Refs and records -/

/-- **What can be observed has a ref**, with the name in its record. -/
theorem ref?_of_observe (h : k.observe o = .ok record) :
    k.ref? o = some ⟨k.nameIn record, (k.metadata o).ns⟩ := by
  obtain ⟨hname, -⟩ := Metadata.requiredName_eq_ok_iff.mp (requiredName_of_observe h)
  rw [ref?, hname, Option.map_some]

/-- Objects with the same ref have the same name and the same namespace. -/
theorem metadata_of_ref? {ref : ObjectRef} (h : k.ref? o = some ref) :
    (k.metadata o).name = some ref.name ∧ (k.metadata o).ns = ref.ns := by
  obtain ⟨name, hname, rfl⟩ := Option.map_eq_some_iff.mp h
  exact ⟨hname, rfl⟩

/-- **Whether an object can be observed is told by its ref.** -/
theorem exists_observe_eq_ok_of_ref? {ref : ObjectRef} (h : k.ref? o = some ref)
    (h' : k.ref? o' = some ref) (hr : k.observe o = .ok record) :
    ∃ record', k.observe o' = .ok record' := by
  obtain ⟨hname, hns⟩ := metadata_of_ref? h
  obtain ⟨hname', hns'⟩ := metadata_of_ref? h'
  have hsuffices := exists_observe_eq_ok_iff.mp ⟨record, hr⟩
  refine exists_observe_eq_ok_iff.mpr ?_
  unfold Metadata.Suffices at hsuffices ⊢
  rwa [hname', hns', ← hname, ← hns]

/-- Records of objects with the same ref say the same name, and the objects are in the same
namespace. -/
theorem nameIn_eq_of_ref?_eq (h : k.observe o = .ok record) (h' : k.observe o' = .ok record')
    (href : k.ref? o = k.ref? o') :
    k.nameIn record = k.nameIn record' ∧ (k.metadata o).ns = (k.metadata o').ns := by
  rw [ref?_of_observe h, ref?_of_observe h'] at href
  exact ObjectRef.mk.inj (Option.some.inj href)

end Kind

/-- **Pods have the same ref exactly if their records have the same key.** -/
theorem PodRecord.ref?_eq_iff {pod pod' : Pod} {r r' : PodRecord} (h : ofPod pod = .ok r)
    (h' : ofPod pod' = .ok r') : Kind.ref? .pod pod = Kind.ref? .pod pod' ↔ r.key = r'.key := by
  have href : ∀ {pod : Pod} {r : PodRecord}, ofPod pod = .ok r →
      Kind.ref? .pod pod = some r.key.ref := by
    intro pod r h
    obtain ⟨-, hname, hns⟩ := of_ofPod h
    show pod.metadata.name.map _ = _
    rw [hname]
    exact congrArg some (ObjectRef.ext rfl hns)
  rw [href h, href h', Option.some.injEq, PodKey.ref_inj]

/-- The namespace in the record of a slice is empty if the slice has none. -/
theorem SliceRecord.ns_of_ofSlice {slice : EndpointSlice} {s : SliceRecord}
    (h : ofSlice slice = .ok s) : s.ns = slice.metadata.ns.getD "" := by
  unfold ofSlice at h
  cases hname : slice.metadata.requiredName with
  | error defect =>
    rw [hname] at h
    cases h
  | ok name =>
    rw [hname] at h
    cases h
    rfl

namespace Tracker

variable {k : Kind}

/-! ## Crashes -/

/-- **No events make a tracker crash**, whatever it knows. -/
theorem runOrCrash_eq (t : Tracker k) (events : List (WatchEvent k)) :
    t.runOrCrash events = some (t.run events) := by
  induction events generalizing t with
  | nil => rfl
  | cons e events ih =>
    rw [runOrCrash, stepOrCrash_eq]
    show (runOrCrash (t.step e).1 events).bind _ = _
    rw [ih]
    rfl

/-! ## What is known -/

/-- **What is known has been identified.** -/
theorem exists_identify_of_path {moves : List (Move k)} {t : Tracker k}
    (path : Steps.Path Move.Leads {} moves t) {ref : ObjectRef} {record : k.Record}
    (h : t.known[ref]? = some record) : ∃ o, k.identify o = .ok (ref, record) := by
  refine path.keeps (P := fun t => ∀ {ref record}, t.known[ref]? = some record →
    ∃ o, k.identify o = .ok (ref, record)) ?_ (fun h => by simp at h) h
  rintro t m t' - ⟨-, htakes⟩ hknown ref record hr
  exact htakes.outcome.forall_known hknown (fun _ ho => ⟨_, ho⟩) hr

/-- **An object that cannot be observed has no ref that is known.** -/
theorem notMem_known_of_path {moves : List (Move k)} {t : Tracker k}
    (path : Steps.Path Move.Leads {} moves t) {o : k.Object} {ref : ObjectRef}
    (h : ∀ record, k.observe o ≠ .ok record) (href : k.ref? o = some ref) : ref ∉ t.known := by
  intro hmem
  obtain ⟨record, hknown⟩ := Option.isSome_iff_exists.mp
    (ExtTreeMap.mem_iff_isSome_getElem?.mp hmem)
  obtain ⟨o', ho'⟩ := exists_identify_of_path path hknown
  obtain ⟨hr', href'⟩ := Kind.identify_eq_ok_iff.mp ho'
  obtain ⟨record', hr⟩ := Kind.exists_observe_eq_ok_of_ref? href' href hr'
  exact h record' hr

/-- **The two identities of an object agree.** It can be observed exactly if it has a name that is
not empty, and as a pod a namespace that is not empty as well. Since its ref is asked for
afterwards, there is always one, and no events make a tracker crash.

Pods have the same ref exactly if their records have the same key. Nodes with the same ref have
records with the same name, and slices with the same ref have records with the same name and the
same namespace. Whatever a tracker has come to know, an object that cannot be observed has no ref
among the known ones. -/
theorem identities_of_path {moves : List (Move k)} {t : Tracker k}
    (path : Steps.Path Move.Leads {} moves t) :
    (∀ o : k.Object, (∃ record, k.observe o = .ok record) ↔ (k.metadata o).Suffices k) ∧
    (∀ (s : Tracker k) (events : List (WatchEvent k)),
      s.runOrCrash events = some (s.run events)) ∧
    (∀ (pod pod' : Pod) (r r' : PodRecord), Kind.observe .pod pod = .ok r →
      Kind.observe .pod pod' = .ok r' →
        (Kind.ref? .pod pod = Kind.ref? .pod pod' ↔ r.key = r'.key)) ∧
    (∀ (node node' : Node) (r r' : NodeRecord), Kind.observe .node node = .ok r →
      Kind.observe .node node' = .ok r' →
        Kind.ref? .node node = Kind.ref? .node node' → r.name = r'.name) ∧
    (∀ (slice slice' : EndpointSlice) (s s' : SliceRecord),
      Kind.observe .endpointSlice slice = .ok s → Kind.observe .endpointSlice slice' = .ok s' →
        Kind.ref? .endpointSlice slice = Kind.ref? .endpointSlice slice' →
          s.name = s'.name ∧ s.ns = s'.ns) ∧
    ∀ (o : k.Object) (ref : ObjectRef), (∀ record, k.observe o ≠ .ok record) →
      k.ref? o = some ref → ref ∉ t.known := by
  refine ⟨fun _ => Kind.exists_observe_eq_ok_iff, fun s => s.runOrCrash_eq,
    fun _ _ _ _ h h' => PodRecord.ref?_eq_iff h h',
    fun _ _ _ _ h h' href => (Kind.nameIn_eq_of_ref?_eq h h' href).1, ?_,
    fun _ _ h href => notMem_known_of_path path h href⟩
  intro slice slice' s s' h h' href
  obtain ⟨hname, hns⟩ := Kind.nameIn_eq_of_ref?_eq h h' href
  refine ⟨hname, ?_⟩
  rw [SliceRecord.ns_of_ofSlice h, SliceRecord.ns_of_ofSlice h']
  exact congrArg (Option.getD · "") hns

/-- A pod is listed, and three times an event is about what looks like it: without a name, without a
namespace, and with an empty one. -/
theorem identities_of_path_of_malformed :
    let pod (name ns : Option String) : Pod := { metadata := { name, ns } }
    let events : List (WatchEvent .pod) := [.listingStarted, .listed (pod "a.b" "c"),
      .listed (pod none "c"), .listingDone, .changed (pod "a.b" none), .deleted (pod "a.b" "")]
    let t := (run {} events).1
    Steps.Path Move.Leads {} (movesOf {} events) t ∧
      runOrCrash {} events = some (run {} events) ∧ ⟨"a.b", some "c"⟩ ∈ t.known ∧
      (∃ record, Kind.observe .pod (pod "a.b" "c") = .ok record) ∧
      (∀ record, Kind.observe .pod (pod "a.b" "") ≠ .ok record) ∧
      Kind.ref? .pod (pod none "c") = none ∧
      Kind.ref? .pod (pod "a.b" "") = some ⟨"a.b", some ""⟩ ∧ ⟨"a.b", some ""⟩ ∉ t.known := by
  intro pod events t
  have path : Steps.Path Move.Leads {} (movesOf {} events) t := path_movesOf {} events
  obtain ⟨hobserve, hrun, -, -, -, hknown⟩ := identities_of_path path
  have hempty : ∀ record, Kind.observe .pod (pod "a.b" "") ≠ .ok record := fun record h =>
    absurd ((hobserve _).mp ⟨record, h⟩) (by decide)
  exact ⟨path, hrun {} events, by decide +kernel, (hobserve _).mpr (by decide), hempty, rfl, rfl,
    hknown _ _ hempty rfl⟩

end Tracker

end PodDirectory
