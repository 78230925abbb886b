import PodDirectory.Proofs.MonitorPods

/-!
# The tracker and the directory know the same pods

The tracker of pods remembers a record for every ref, and the directory has one under every
name. The two are told of the same things and store them in different ways: a ref keeps name
and namespace apart, and a name is one text. They never drift apart all the same, if the
namespaces of pods have no dots (`Agrees`).

Every record that either of them has is then found in the other, under the key of the
record. Asking with a key is a different matter: a key whose namespace has a dot can have
the text of another pod's name, and the directory answers with that pod.
-/

namespace PodDirectory

open Std (ExtTreeMap)

/-! ## Refs of pods -/

namespace PodKey

/-- The ref of the pod of a key. -/
def ref (key : PodKey) : ObjectRef := ⟨key.name, some key.ns⟩

theorem ref_inj {a b : PodKey} : a.ref = b.ref ↔ a = b := by
  simp [ref, PodKey.ext_iff]

end PodKey

/-- The record of a pod keeps the pod, and its key says the name and the namespace. -/
theorem PodRecord.of_ofPod {pod : Pod} {r : PodRecord} (h : ofPod pod = .ok r) :
    r.snapshot = pod ∧ pod.metadata.name = some r.key.name ∧
      pod.metadata.ns = some r.key.ns := by
  unfold ofPod Metadata.requiredName at h
  cases hname : nonempty? pod.metadata.name with
  | none =>
    rw [hname] at h
    cases h
  | some name =>
    rw [hname] at h
    cases hns : nonempty? pod.metadata.ns with
    | none =>
      rw [hns] at h
      cases h
    | some ns =>
      rw [hns] at h
      cases h
      exact ⟨rfl, (Option.filter_eq_some_iff.mp hname).1, (Option.filter_eq_some_iff.mp hns).1⟩

/-- What is observed of a pod says its ref and its namespace. -/
theorem ref_of_identify {pod : Pod} {ref : ObjectRef} {r : PodRecord}
    (h : Kind.identify .pod pod = .ok (ref, r)) :
    ref = r.key.ref ∧ pod.metadata.ns = some r.key.ns := by
  obtain ⟨hr, href⟩ := Kind.identify_eq_ok_iff.mp h
  obtain ⟨-, hname, hns⟩ := PodRecord.of_ofPod hr
  unfold Kind.ref? Kind.metadata at href
  rw [hname, hns] at href
  exact ⟨(Option.some.inj href).symm, hns⟩

/-- The record of a pod that is identified keeps the pod. -/
theorem snapshot_of_identify {pod : Pod} {ref : ObjectRef} {r : PodRecord}
    (h : Kind.identify .pod pod = .ok (ref, r)) : r.snapshot = pod :=
  (PodRecord.of_ofPod (Kind.identify_eq_ok_iff.mp h).1).1

/-! ## Agreement -/

/-- **A tracker and a directory agree**: what is known under a ref stands under its name. -/
structure Agrees (known : ExtTreeMap ObjectRef PodRecord) (d : Directory) : Prop where
  consistent : d.Consistent
  /-- A pod is known under its own ref, and its namespace has no dot. -/
  known_key : ∀ {ref : ObjectRef} {r : PodRecord}, known[ref]? = some r →
    ref = r.key.ref ∧ IsDotless r.key.ns
  /-- Under the name of a key stands what is known under its ref. -/
  findByName?_eq : ∀ {key : PodKey}, IsDotless key.ns → d.findByName? key.text = known[key.ref]?
  size_eq : d.byName.size = known.size

theorem agrees_new (required : KindSet) (logsNodeUpdates : Bool) :
    Agrees ∅ (.new required logsNodeUpdates) where
  consistent := Directory.consistent_new required logsNodeUpdates
  known_key h := by simp at h
  findByName?_eq _ := by simp [Directory.findByName?, Directory.new]
  size_eq := rfl

namespace Agrees

variable {known : ExtTreeMap ObjectRef PodRecord} {d : Directory} {r : PodRecord}

/-- A name is taken if its ref is known. -/
theorem mem_byName_iff (h : Agrees known d) (hr : IsDotless r.key.ns) :
    r.key.text ∈ d.byName ↔ r.key.ref ∈ known := by
  rw [ExtTreeMap.mem_iff_isSome_getElem?, ExtTreeMap.mem_iff_isSome_getElem?,
    ← h.findByName?_eq hr]
  rfl

/-- A pod that is upserted is known from then on. -/
theorem insert (h : Agrees known d) (hr : IsDotless r.key.ns) :
    Agrees (known.insert r.key.ref r) (d.upsert r) where
  consistent := h.consistent.upsert hr
  known_key := forall_getElem?_insert h.known_key ⟨rfl, hr⟩
  findByName?_eq {key} hkey := by
    rw [Directory.findByName?_upsert, ExtTreeMap.getElem?_insert, h.findByName?_eq hkey]
    simp only [Std.LawfulEqCmp.compare_eq_iff_eq, PodKey.ref_inj, PodKey.text_inj hkey hr,
      eq_comm (a := key)]
  size_eq := by
    rw [Directory.size_byName_upsert, ExtTreeMap.size_insert, h.size_eq]
    simp only [h.mem_byName_iff hr]
    rfl

/-- A pod that is removed is not known from then on. -/
theorem erase (h : Agrees known d) (hr : IsDotless r.key.ns) :
    Agrees (known.erase r.key.ref) (d.remove r) where
  consistent := h.consistent.remove hr
  known_key hk := h.known_key (of_getElem?_erase hk)
  findByName?_eq {key} hkey := by
    rw [Directory.findByName?_remove, ExtTreeMap.getElem?_erase, h.findByName?_eq hkey]
    simp only [Std.LawfulEqCmp.compare_eq_iff_eq, PodKey.ref_inj, PodKey.text_inj hkey hr,
      eq_comm (a := key)]
  size_eq := by
    rw [Directory.size_byName_remove, ExtTreeMap.size_erase, h.size_eq]
    simp only [h.mem_byName_iff hr]
    rfl

/-- Under any name stands what is known under the ref of its own key. -/
theorem findByName?_eq_some_iff (h : Agrees known d) {name : String} :
    d.findByName? name = some r ↔ known[r.key.ref]? = some r ∧ r.key.text = name := by
  constructor
  · intro hname
    have htext := h.consistent.text_eq hname
    rw [← h.findByName?_eq (h.consistent.dotless hname), htext]
    exact ⟨hname, rfl⟩
  · rintro ⟨hk, rfl⟩
    rw [h.findByName?_eq (h.known_key hk).2]
    exact hk

end Agrees

/-! ## Events keep the agreement -/

/-- A pod that is delivered is upserted, whether it was known or not. -/
theorem podCalls_deliver (t : Tracker .pod) (ref : ObjectRef) (r : PodRecord) (initial : Bool) :
    (t.deliver ref r initial).2.filterMap Effect.podCall? = [.upsert r] := by
  show [Effect.notify ref (t.noticeOf ref r initial)].filterMap Effect.podCall? = _
  unfold Tracker.noticeOf
  cases t.known[ref]? <;> rfl

/-- Of the end of a listing only what is forgotten matters to the pods. -/
theorem podCalls_finishListing (t : Tracker .pod) (gone : List ObjectRef) :
    (t.finishListing gone).2.filterMap Effect.podCall?
      = (Tracker.forget { t with listing := none } gone).2.filterMap Effect.podCall? := by
  unfold Tracker.finishListing
  dsimp only
  split <;> simp [Effect.podCall?]

/-- **A relation that upserts and removals keep**, between what is known and a directory, as
long as the records are fine. -/
structure KeptByCalls (R : ExtTreeMap ObjectRef PodRecord → Directory → Prop)
    (Fine : PodRecord → Prop) : Prop where
  known_key : ∀ {known d ref r}, R known d → known[ref]? = some r → ref = r.key.ref ∧ Fine r
  insert : ∀ {known d r}, R known d → Fine r → R (known.insert r.key.ref r) (d.upsert r)
  erase : ∀ {known d r}, R known d → Fine r → R (known.erase r.key.ref) (d.remove r)

namespace KeptByCalls

variable {R : ExtTreeMap ObjectRef PodRecord → Directory → Prop} {Fine : PodRecord → Prop}
  {t t' : Tracker .pod} {d : Directory} {e : WatchEvent .pod} {effects : List Effect}

/-- Pods that are forgotten are removed. -/
theorem forget (kept : KeptByCalls R Fine) (h : R t.known d) (gone : List ObjectRef) :
    R (t.forget gone).1.known (d.callAll ((t.forget gone).2.filterMap Effect.podCall?)) := by
  induction gone generalizing t d with
  | nil => exact h
  | cons g gone ih =>
    unfold Tracker.forget
    cases hg : t.known[g]? with
    | none => exact ih h
    | some last =>
      obtain ⟨rfl, hfine⟩ := kept.known_key h hg
      exact ih (t := { t with known := t.known.erase last.key.ref }) (kept.erase h hfine)

/-- **What upserts and removals keep, an event keeps.** -/
theorem outcome (kept : KeptByCalls R Fine) (h : R t.known d)
    (step : Tracker.Outcome t e t' effects)
    (he : ∀ {pod ref r}, e.object? = some pod → Kind.identify .pod pod = .ok (ref, r) → Fine r) :
    R t'.known (d.callAll (effects.filterMap Effect.podCall?)) := by
  cases step with
  | started => exact h
  | @listed pod ref r hr =>
    obtain ⟨rfl, -⟩ := ref_of_identify hr
    rw [podCalls_deliver]
    exact kept.insert h (he rfl hr)
  | @changed pod ref r hr =>
    obtain ⟨rfl, -⟩ := ref_of_identify hr
    rw [podCalls_deliver]
    exact kept.insert h (he rfl hr)
  | @deleted pod ref r hr =>
    obtain ⟨rfl, -⟩ := ref_of_identify hr
    exact kept.erase h (he rfl hr)
  | dropped => exact h
  | @done gone =>
    rw [podCalls_finishListing]
    exact kept.forget (t := { t with listing := none }) h gone

end KeptByCalls

namespace Agrees

theorem keptByCalls : KeptByCalls Agrees (fun r => IsDotless r.key.ns) where
  known_key h hk := h.known_key hk
  insert h hr := h.insert hr
  erase h hr := h.erase hr

/-- **An event keeps the agreement.** -/
theorem outcome {t t' : Tracker .pod} {d : Directory} {e : WatchEvent .pod}
    {effects : List Effect} (h : Agrees t.known d) (step : Tracker.Outcome t e t' effects)
    (he : e.HasDotlessNs) : Agrees t'.known (d.callAll (effects.filterMap Effect.podCall?)) :=
  keptByCalls.outcome h step fun hpod hr => he _ hpod _ (ref_of_identify hr).2

/-- **Any events keep the agreement.** -/
theorem of_path {s s' : Tracker .pod × Directory} {events : List (WatchEvent .pod)}
    (h : Agrees s.1.known s.2) (path : Steps.Path Follows s events s')
    (hdot : ∀ e ∈ events, e.HasDotlessNs) : Agrees s'.1.known s'.2 := by
  refine path.keeps (P := fun s => Agrees s.1.known s.2) ?_ h
  rintro s e next he ⟨effects, htakes, hnext⟩ hs
  rw [hnext]
  exact hs.outcome htakes.outcome (hdot e he)

end Agrees

namespace Monitor

/-- **In a monitor the tracker of pods and the directory agree**, as long as nobody else
tells of pods. -/
theorem agrees_of_path {required : KindSet} {logsNodeUpdates : Bool} {steps : List MonitorStep}
    {m : Monitor} (path : Steps.Path Takes { directory := .new required logsNodeUpdates } steps m)
    (hspare : ∀ s ∈ steps, s.SparesPods)
    (hdot : ∀ e ∈ steps.filterMap MonitorStep.podEvent?, e.HasDotlessNs) :
    Agrees m.pods.known m.directory.podsOnly :=
  (agrees_new .empty false).of_path (follows_of_path path hspare) hdot

/-- **The tracker and the directory never drift apart.** A key whose namespace has no dot is
found exactly if its ref is known, with the same record; any key is found exactly if a pod is
known whose own key has the same text, with the record of that pod. As many pods are counted
as have names, and as are known. -/
theorem findByKey?_iff_known {required : KindSet} {logsNodeUpdates : Bool}
    {steps : List MonitorStep} {m : Monitor}
    (path : Steps.Path Takes { directory := .new required logsNodeUpdates } steps m)
    (hspare : ∀ s ∈ steps, s.SparesPods)
    (hdot : ∀ e ∈ steps.filterMap MonitorStep.podEvent?, e.HasDotlessNs) :
    (∀ key r, IsDotless key.ns →
      (m.directory.findByKey? key = some r ↔ m.pods.known[key.ref]? = some r)) ∧
    (∀ key r, m.directory.findByKey? key = some r ↔
      m.pods.known[r.key.ref]? = some r ∧ r.key.text = key.text) ∧
    m.directory.stats.pods = Int64.ofNat m.pods.known.size ∧
    m.directory.stats.indexedNames = m.pods.known.size := by
  have h := agrees_of_path path hspare hdot
  refine ⟨fun key r hkey => ?_, fun key r => ?_, ?_, h.size_eq⟩
  · rw [← h.findByName?_eq hkey]
    rfl
  · exact h.findByName?_eq_some_iff
  · rw [← h.size_eq]
    exact h.consistent.pods_eq

/-- A pod with a dot in its name is listed, and another one comes and goes. -/
theorem findByKey?_iff_known_after_listing :
    let dotted : Pod := { metadata := { name := some "a.b", ns := some "c" } }
    let other : Pod := { metadata := { name := some "d", ns := some "c" } }
    let steps : List MonitorStep := [.watch .pod .listingStarted, .watch .pod (.listed dotted),
      .watch .pod (.listed other), .watch .pod .listingDone, .watch .pod (.deleted other)]
    let m := (run { directory := .new Directory.defaultRequired false } steps).1
    (∀ s ∈ steps, s.SparesPods) ∧
      (∀ e ∈ steps.filterMap MonitorStep.podEvent?, e.HasDotlessNs) ∧
      m.directory.findByKey? ⟨"a.b", "c"⟩ = some { key := ⟨"a.b", "c"⟩, snapshot := dotted } ∧
      (∀ r, m.directory.findByKey? ⟨"d", "c"⟩ ≠ some r) ∧ m.directory.stats.pods = 1 := by
  intro dotted other steps m
  have hspare : ∀ s ∈ steps, s.SparesPods := by decide
  have hdot : ∀ e ∈ steps.filterMap MonitorStep.podEvent?, e.HasDotlessNs := by decide
  have path : Steps.Path Takes { directory := .new Directory.defaultRequired false } steps m :=
    path_run _ steps
  obtain ⟨hkey, -, hpods, -⟩ := findByKey?_iff_known path hspare hdot
  have hknown : m.pods.known[PodKey.ref ⟨"a.b", "c"⟩]?
      = some { key := ⟨"a.b", "c"⟩, snapshot := dotted } := by decide +kernel
  have hgone : m.pods.known[PodKey.ref ⟨"d", "c"⟩]? = none := by decide +kernel
  have hsize : m.pods.known.size = 1 := by decide +kernel
  refine ⟨hspare, hdot, (hkey ⟨"a.b", "c"⟩ _ (by decide)).mpr hknown, fun r hr => ?_, ?_⟩
  · rw [hkey ⟨"d", "c"⟩ r (by decide), hgone] at hr
    cases hr
  · rw [hpods, hsize]
    rfl

/-- A key whose namespace has a dot can have the text of another pod's name. Then the
directory has an answer for it, although its ref is not known. -/
theorem findByKey?_dotted_not_known :
    let pod : Pod := { metadata := { name := some "a.b", ns := some "c" } }
    let m := (run { directory := .new Directory.defaultRequired false }
      [.watch .pod (.changed pod)]).1
    WatchEvent.HasDotlessNs (.changed pod) ∧
      ¬ ∀ name ns r, m.directory.findByKey? ⟨name, ns⟩ = some r ↔
        m.pods.known[(⟨name, some ns⟩ : ObjectRef)]? = some r := by
  intro pod m
  refine ⟨by decide, fun h => ?_⟩
  have hfound : m.directory.findByKey? ⟨"a", "b.c"⟩
      = some { key := ⟨"a.b", "c"⟩, snapshot := pod } := by decide +kernel
  have hnone : m.pods.known[(⟨"a", some "b.c"⟩ : ObjectRef)]? = none := by decide +kernel
  exact absurd (hnone.symm.trans ((h _ _ _).mp hfound)) (by simp)

end Monitor

end PodDirectory
