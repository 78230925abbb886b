import PodDirectory.Proofs.PodAgreement

/-!
# Which pods share a name

The directory knows a pod by one text, so that pods whose keys have the same text share one place
in it. `PodKey.text_eq_iff` says which those are, and here is what it means for the answers. What
is found under a key is a record of this key, or of one that cuts the same text elsewhere; and
every record is found under all keys that have its text.

If no namespace has a dot, only the right record can be found. This holds in every state that a
monitor can come to, by whatever steps: pods can be told of by their tracker and by others at the
same time, and the tracker can be replaced by one that has forgotten all of them
(`Monitor.consistent_of_path`).
-/

namespace PodDirectory

open Std (ExtTreeMap)

/-! ## Answers and texts -/

namespace Directory.Indexed

variable {d : Directory} (hd : d.Indexed)
include hd

/-- What is found under a key has the text of the key. -/
theorem text_eq_of_findByKey? {key : PodKey} {r : PodRecord} (h : d.findByKey? key = some r) :
    r.key.text = key.text :=
  hd.text_eq h

/-- **The last record of a pod is found under all keys that have its text**, and under no
other. -/
theorem findByKey?_upsert_eq_some_iff {key : PodKey} {r : PodRecord} :
    (d.upsert r).findByKey? key = some r ↔ r.key.text = key.text := by
  constructor
  · exact (hd.upsert r).text_eq_of_findByKey?
  · intro h
    unfold findByKey?
    rw [findByName?_upsert, if_pos h.symm]

end Directory.Indexed

/-! ## Steps that tell of namespaces without dots -/

/-- The record of the pod that a step tells of, be it by itself or by an event for their tracker.
There is none of a pod that cannot be observed. -/
def MonitorStep.podRecord? : MonitorStep → Option PodRecord
  | .notify notice => notice.podCall?.map PodCall.record
  | .watch .pod e => e.object?.bind fun pod => (PodRecord.ofPod pod).toOption
  | _ => none

/-- **Whether the namespace is without a dot** of the pod that a step tells of, if it does. -/
def MonitorStep.HasDotlessNs (s : MonitorStep) : Prop := ∀ r ∈ s.podRecord?, IsDotless r.key.ns

instance (s : MonitorStep) : Decidable s.HasDotlessNs :=
  inferInstanceAs (Decidable (∀ r ∈ s.podRecord?, IsDotless r.key.ns))

/-- A step that brings an event tells of the pod that is identified. -/
theorem MonitorStep.podRecord?_of_identify {e : WatchEvent .pod} {pod : Pod} {ref : ObjectRef}
    {r : PodRecord} (hpod : e.object? = some pod) (hr : Kind.identify .pod pod = .ok (ref, r)) :
    podRecord? (.watch .pod e) = some r := by
  have hrecord : PodRecord.ofPod pod = .ok r := (Kind.identify_eq_ok_iff.mp hr).1
  simp [podRecord?, hpod, hrecord, Except.toOption]

/-- **No namespace has a dot**, neither of what a tracker of pods knows nor in a directory. The two
need not know the same pods. -/
structure Dotless (known : ExtTreeMap ObjectRef PodRecord) (d : Directory) : Prop where
  consistent : d.Consistent
  known_key : ∀ {ref : ObjectRef} {r : PodRecord}, known[ref]? = some r →
    ref = r.key.ref ∧ IsDotless r.key.ns

namespace Dotless

/-- A tracker that knows nothing knows of no dot. -/
theorem of_consistent {d : Directory} (hd : d.Consistent) : Dotless ∅ d :=
  ⟨hd, fun h => by simp at h⟩

theorem keptByCalls : KeptByCalls Dotless (fun r => IsDotless r.key.ns) where
  known_key h hk := h.known_key hk
  insert h hr :=
    ⟨h.consistent.upsert hr, forall_getElem?_insert h.known_key ⟨rfl, hr⟩⟩
  erase h hr := ⟨h.consistent.remove hr, fun hk => h.known_key (of_getElem?_erase hk)⟩

end Dotless

namespace Monitor

variable {m m' : Monitor} {s : MonitorStep}

/-- **A step that tells only of namespaces without dots keeps them out.** -/
theorem Takes.dotless (h : Takes m s m') (hs : s.HasDotlessNs)
    (hm : Dotless m.podsPart.1.known m.podsPart.2) :
    Dotless m'.podsPart.1.known m'.podsPart.2 := by
  cases s with
  | notify notice =>
    cases h
    refine ⟨?_, hm.known_key⟩
    show ((m.directory.apply notice).1.podsOnly).Consistent
    rw [Directory.podsOnly_apply]
    exact hm.consistent.callAll fun c hc =>
      hs c.record (Option.mem_map_of_mem _ (Option.mem_toList.mp hc))
  | watch k e =>
    cases k with
    | pod =>
      obtain ⟨effects, htakes, hnext⟩ := h.follows (e := e) rfl
      rw [hnext]
      exact Dotless.keptByCalls.outcome hm htakes.outcome fun hpod hr =>
        hs _ (MonitorStep.podRecord?_of_identify hpod hr)
    | node | endpointSlice =>
      rw [h.podsPart_eq trivial rfl]
      exact hm
  | restart k =>
    cases h
    cases k with
    | pod => exact .of_consistent hm.consistent
    | node | endpointSlice => exact hm
  | mark | wait =>
    rw [h.podsPart_eq trivial rfl]
    exact hm

/-- Whatever a step is, it changes the pods of the directory by calls. -/
theorem Takes.exists_calls (h : Takes m s m') :
    ∃ calls, m'.directory.podsOnly = m.directory.podsOnly.callAll calls := by
  cases s with
  | notify notice =>
    cases h
    exact ⟨_, m.directory.podsOnly_apply notice⟩
  | watch k e =>
    obtain ⟨t, effects, -, rfl⟩ := h.watched
    exact ⟨_, m.directory.podsOnly_performAll effects⟩
  | restart k =>
    cases h
    exact ⟨[], by cases k <;> rfl⟩
  | mark | wait => exact ⟨[], congrArg Prod.snd (h.podsPart_eq trivial rfl)⟩

section Path

variable {required : KindSet} {logsNodeUpdates : Bool} {steps : List MonitorStep}
  (path : Steps.Path Takes { directory := .new required logsNodeUpdates } steps m)
include path

/-- In every state of a monitor each table is in order. -/
theorem indexed_of_path : m.directory.Indexed := by
  refine Directory.Indexed.of_podsOnly (path.keeps (P := fun m => m.directory.podsOnly.Indexed)
    (fun m _ m' _ h hm => ?_) (Directory.consistent_new .empty false).toIndexed)
  obtain ⟨calls, hcalls⟩ := h.exists_calls
  rw [hcalls]
  exact hm.callAll calls

/-- **In every state of a monitor the tables are consistent**, if no namespace that it is told of
has a dot. -/
theorem consistent_of_path (hdot : ∀ s ∈ steps, s.HasDotlessNs) : m.directory.Consistent := by
  have hstart : Dotless ∅ (Directory.new required logsNodeUpdates).podsOnly :=
    .of_consistent (Directory.consistent_new .empty false)
  have hm : Dotless m.podsPart.1.known m.podsPart.2 :=
    path.keeps (P := fun m => Dotless m.podsPart.1.known m.podsPart.2)
      (fun _ s _ hmem h => h.dotless (hdot s hmem)) hstart
  exact hm.consistent.of_podsOnly

/-- **Which pods share a name, and what a key finds.** Two keys have the same text exactly if they
are the same or one cuts it later than the other. So they are the same if their namespaces have no
dot, whatever their names have.

In every state of a monitor a key finds a record of its own or of a key that cuts its text
elsewhere, and where a pod has become known, its record is found under exactly these keys. If no
namespace has a dot that the monitor was told of, a key whose namespace has none finds no other
record than its own. -/
theorem names_tell_keys :
    (∀ a b : PodKey, a.text = b.text ↔ a = b ∨ a.CutsLater b ∨ b.CutsLater a) ∧
    (∀ a b : PodKey, IsDotless a.ns → IsDotless b.ns → a.text = b.text → a = b) ∧
    (∀ key r, m.directory.findByKey? key = some r →
      r.key = key ∨ r.key.CutsLater key ∨ key.CutsLater r.key) ∧
    (∀ key r, (m.directory.upsert r).findByKey? key = some r ↔
      r.key = key ∨ r.key.CutsLater key ∨ key.CutsLater r.key) ∧
    ((∀ s ∈ steps, s.HasDotlessNs) → ∀ key r, IsDotless key.ns →
      m.directory.findByKey? key = some r → r.key = key) := by
  have hd := indexed_of_path path
  refine ⟨fun a b => PodKey.text_eq_iff, fun a b ha hb => (PodKey.text_inj ha hb).mp,
    fun key r h => PodKey.text_eq_iff.mp (hd.text_eq_of_findByKey? h), fun key r => ?_, ?_⟩
  · rw [hd.findByKey?_upsert_eq_some_iff, PodKey.text_eq_iff]
  · intro hdot key r hkey h
    exact (consistent_of_path path hdot).key_eq hkey h

end Path

/-- A pod with a dot in its name is told of twice, the second time after its tracker has been
replaced, and another pod comes and goes. A pod without a name is dropped, whatever its
namespace. -/
theorem names_tell_keys_of_dotted_name :
    let pod (name address : String) : Pod :=
      { metadata := { name := some name, ns := some "c" }, status := some { podIP := address } }
    let moved : PodRecord :=
      { key := ⟨"a.b", "c"⟩, address := "10.0.0.2", snapshot := pod "a.b" "10.0.0.2" }
    let steps : List MonitorStep := [.watch .pod (.changed (pod "a.b" "10.0.0.1")), .restart .pod,
      .notify (.added (.pod { key := ⟨"a", "c"⟩ }) false),
      .watch .pod (.changed { metadata := { ns := some "b.c" } }),
      .watch .pod (.changed (pod "a.b" "10.0.0.2")),
      .notify (.deleted (.pod { key := ⟨"a", "c"⟩ }))]
    let m := (run { directory := .new Directory.defaultRequired false } steps).1
    Steps.Path Takes { directory := .new Directory.defaultRequired false } steps m ∧
      (∀ s ∈ steps, s.HasDotlessNs) ∧
      PodKey.text ⟨"a.b", "c"⟩ = PodKey.text ⟨"a", "b.c"⟩ ∧
      m.directory.findByKey? ⟨"a.b", "c"⟩ = some moved ∧
      (∀ r, m.directory.findByKey? ⟨"a.b", "c"⟩ = some r → r.key = ⟨"a.b", "c"⟩) ∧
      (m.directory.upsert moved).findByKey? ⟨"a", "b.c"⟩ = some moved ∧
      ∀ r, m.directory.findByKey? ⟨"a", "c"⟩ = some r → r.key = ⟨"a", "c"⟩ := by
  intro pod moved steps m
  have path : Steps.Path Takes { directory := .new Directory.defaultRequired false } steps m :=
    path_run _ steps
  have hdot : ∀ s ∈ steps, s.HasDotlessNs := by decide
  have hcut : PodKey.CutsLater ⟨"a.b", "c"⟩ ⟨"a", "b.c"⟩ := ⟨"b", by decide, by decide⟩
  obtain ⟨htext, -, -, hshared, hown⟩ := names_tell_keys path
  exact ⟨path, hdot, (htext _ _).mpr (Or.inr (Or.inl hcut)), by decide +kernel,
    fun r hr => hown hdot _ r (by decide) hr, (hshared _ _).mpr (Or.inr (Or.inl hcut)),
    fun r hr => hown hdot _ r (by decide) hr⟩

end Monitor

end PodDirectory
