import Mathlib.Data.List.Perm.Basic
import PodDirectory.Proofs.Relisting

/-!
# Listing again what is known

A record keeps the pod that it was observed of, so that all known pods can be listed again just as
they were delivered. Such a listing brings no news: the same pods are known with the same records,
under the same names, and as many are counted.

With addresses it is different. To be listed is to be upserted, and where pods share an address,
it becomes the one's that is listed last, whoever had it before. An address that was lost is found
again. So the answers for an address change unless it was the last listed one's already
(`Monitor.relisting_of_known`), and they do change where it was not
(`Monitor.findByAddress?_changed_by_relisting`).
-/

namespace PodDirectory

open Std (ExtTreeMap)

/-! ## Pods as they were delivered -/

/-- **What is known of pods is what is observed of them as they were delivered.** -/
def Recorded (known : ExtTreeMap ObjectRef PodRecord) : Prop :=
  ∀ ref r, known[ref]? = some r → Kind.identify .pod r.snapshot = .ok (ref, r)

/-- The known pods as they were delivered, in the order of their refs. -/
def deliveredPods (known : ExtTreeMap ObjectRef PodRecord) : List Pod :=
  known.toList.map fun entry => entry.2.snapshot

namespace Recorded

/-- Any events keep what is known recorded. -/
theorem of_path {s s' : Tracker .pod × Directory} {events : List (WatchEvent .pod)}
    (h : Recorded s.1.known) (path : Steps.Path Follows s events s') : Recorded s'.1.known := by
  refine path.keeps (P := fun s => Recorded s.1.known) ?_ h
  rintro s e next - ⟨effects, htakes, -⟩ hs ref r hr
  refine htakes.outcome.forall_known
    (P := fun ref r => Kind.identify .pod r.snapshot = .ok (ref, r)) (hs _ _) (fun _ ho => ?_) hr
  rw [snapshot_of_identify ho]
  exact ho

variable {known : ExtTreeMap ObjectRef PodRecord} (h : Recorded known) {pods : List Pod}
  (hpods : pods.Perm (deliveredPods known))
include h hpods

/-- **A listing of the known pods finds what is known**, in its own order. -/
theorem identified_perm : (identified pods).Perm known.toList := by
  have hsame : identified (deliveredPods known) = known.toList := by
    unfold identified deliveredPods
    rw [List.filterMap_map]
    refine (List.filterMap_congr fun entry hentry => ?_).trans List.filterMap_some
    show (Kind.identify .pod entry.2.snapshot).toOption = some entry
    rw [h _ _ (ExtTreeMap.mem_toList_iff_getElem?_eq_some.mp hentry)]
    rfl
  rw [← hsame]
  exact hpods.filterMap _

/-- The pods of such a listing have different refs. -/
theorem nodup_identified : ((identified pods).map Prod.fst).Nodup := by
  rw [((h.identified_perm hpods).map Prod.fst).nodup_iff, ExtTreeMap.map_fst_toList_eq_keys]
  exact ExtTreeMap.nodup_keys

/-- What such a listing finds is what is known. -/
theorem mem_identified_iff {ref : ObjectRef} {r : PodRecord} :
    (ref, r) ∈ identified pods ↔ known[ref]? = some r := by
  rw [(h.identified_perm hpods).mem_iff, ExtTreeMap.mem_toList_iff_getElem?_eq_some]

end Recorded

/-! ## After the listing -/

/-- The events of a listing are about its pods. -/
theorem hasDotlessNs_of_mem_listingOf {pods : List Pod}
    (hdot : ∀ pod ∈ pods, WatchEvent.HasDotlessNs (.listed pod)) :
    ∀ e ∈ listingOf pods, e.HasDotlessNs := by
  intro e he
  rcases List.mem_cons.mp he with rfl | he
  · rintro _ ⟨⟩
  rcases List.mem_append.mp he with he | he
  · obtain ⟨pod, hpod, rfl⟩ := List.mem_map.mp he
    exact hdot pod hpod
  · obtain rfl := List.mem_singleton.mp he
    rintro _ ⟨⟩

/-- **A listing of the known pods leaves what is known**, and gives every address to the last
listed pod that has it. -/
theorem Agrees.relist {s s' : Tracker .pod × Directory} (h : Agrees s.1.known s.2)
    (hrecorded : Recorded s.1.known) {pods : List Pod}
    (hpods : pods.Perm (deliveredPods s.1.known))
    (path : Steps.Path Follows s (listingOf pods) s') :
    s'.1.known = s.1.known ∧ Agrees s'.1.known s'.2 ∧
      ∀ a, a ≠ "" → s'.2.findByAddress? a = lastAt? a ((identified pods).map Prod.snd) := by
  have hdot : ∀ pod ∈ pods, WatchEvent.HasDotlessNs (.listed pod) := by
    rintro pod hpod _ ⟨⟩ ns hns
    obtain ⟨⟨ref, r⟩, hentry, rfl⟩ := List.mem_map.mp (hpods.mem_iff.mp hpod)
    have hknown := ExtTreeMap.mem_toList_iff_getElem?_eq_some.mp hentry
    obtain rfl : r.key.ns = ns :=
      Option.some.inj ((ref_of_identify (hrecorded ref r hknown)).2.symm.trans hns)
    exact (h.known_key hknown).2
  have hmirrors := h.mirrors_of_path path hdot (hrecorded.nodup_identified hpods)
  refine ⟨?_, h.of_path path (hasDotlessNs_of_mem_listingOf hdot), hmirrors.findByAddress?_eq⟩
  refine ExtTreeMap.ext_getElem? fun ref => Option.ext fun r => ?_
  exact (hmirrors.known_iff ref r).trans (hrecorded.mem_identified_iff hpods)

/-- Where the same is known, a listing of it changes no answer for an address but that of pods
that share it. -/
theorem Agrees.findByAddress?_eq_iff {known : ExtTreeMap ObjectRef PodRecord} {d d' : Directory}
    (h : Agrees known d) (h' : Agrees known d') (hrecorded : Recorded known) {pods : List Pod}
    (hpods : pods.Perm (deliveredPods known))
    (haddress : ∀ a, a ≠ "" → d'.findByAddress? a = lastAt? a ((identified pods).map Prod.snd))
    (a : String) :
    d'.findByAddress? a = d.findByAddress? a ↔
      (a ≠ "" → ∀ r, lastAt? a ((identified pods).map Prod.snd) = some r →
        d.findByAddress? a = some r) := by
  by_cases ha : a = ""
  · subst ha
    rw [h.consistent.findByAddress?_empty, h'.consistent.findByAddress?_empty]
    simp
  rw [haddress a ha]
  constructor
  · intro hsame _ r hlast
    rw [← hsame, hlast]
  · intro hkeeps
    cases hlast : lastAt? a ((identified pods).map Prod.snd) with
    | some r => exact (hkeeps ha r hlast).symm
    | none =>
      -- a holder is known with the address, so it would have been listed with it
      refine (Option.eq_none_iff_forall_ne_some.mpr fun holder hholder => ?_).symm
      have hknown := (h.findByName?_eq_some_iff.mp (h.consistent.named hholder)).1
      have hlisted := List.mem_map_of_mem (f := Prod.snd)
        ((hrecorded.mem_identified_iff hpods).mpr hknown)
      exact lastAt?_ne_none hlisted (h.consistent.address_eq hholder).2 hlast

namespace Monitor

/-- In a monitor what is known of pods is recorded. -/
theorem recorded_of_path {required : KindSet} {logsNodeUpdates : Bool} {steps : List MonitorStep}
    {m : Monitor} (path : Steps.Path Takes { directory := .new required logsNodeUpdates } steps m)
    (hspare : ∀ s ∈ steps, s.SparesPods) : Recorded m.pods.known :=
  Recorded.of_path (s := podsPart { directory := .new required logsNodeUpdates })
    (fun _ _ h => by simp [podsPart] at h) (follows_of_path path hspare)

/-- **A listing of what is known brings no news but of addresses.** Whatever has happened before,
and whatever else happens in between, when all known pods have been listed again as they were
delivered, in any order, the same pods are known, and the same is found under every name, and as
many pods are counted. An address leads to the last listed pod that has it, if there is one. So
the answer for an address stays the same exactly if this pod has been its holder before, and in
particular if the holder is the only one that has the address. -/
theorem relisting_of_known {required : KindSet} {logsNodeUpdates : Bool}
    {before listing : List MonitorStep} {m m' : Monitor}
    (start : Steps.Path Takes { directory := .new required logsNodeUpdates } before m)
    (path : Steps.Path Takes m listing m')
    (hspare : ∀ s ∈ before ++ listing, s.SparesPods)
    (hdot : ∀ e ∈ before.filterMap MonitorStep.podEvent?, e.HasDotlessNs)
    {pods : List Pod} (hlisting : listing.filterMap MonitorStep.podEvent? = listingOf pods)
    (hpods : pods.Perm (deliveredPods m.pods.known)) :
    m'.pods.known = m.pods.known ∧
    (∀ name, m'.directory.findByName? name = m.directory.findByName? name) ∧
    m'.directory.stats.pods = m.directory.stats.pods ∧
    (∀ a, a ≠ "" → m'.directory.findByAddress? a
      = lastAt? a ((identified pods).map Prod.snd)) ∧
    (∀ a, m'.directory.findByAddress? a = m.directory.findByAddress? a ↔
      (a ≠ "" → ∀ r, lastAt? a ((identified pods).map Prod.snd) = some r →
        m.directory.findByAddress? a = some r)) ∧
    ∀ a r, m.directory.findByAddress? a = some r →
      (∀ (ref : ObjectRef) s, m.pods.known[ref]? = some s → s.address = a → s = r) →
      m'.directory.findByAddress? a = some r := by
  have hbefore : ∀ s ∈ before, s.SparesPods := fun s hs => hspare s (List.mem_append_left _ hs)
  have hagrees : Agrees m.pods.known m.directory.podsOnly := agrees_of_path start hbefore hdot
  have hrecorded : Recorded m.pods.known := recorded_of_path start hbefore
  have hfollows := follows_of_path path fun s hs => hspare s (List.mem_append_right _ hs)
  rw [hlisting] at hfollows
  obtain ⟨hknown, hagrees', haddress⟩ := hagrees.relist hrecorded hpods hfollows
  change m'.pods.known = m.pods.known at hknown
  change Agrees m'.pods.known m'.directory.podsOnly at hagrees'
  rw [hknown] at hagrees'
  have hsame := hagrees.findByAddress?_eq_iff hagrees' hrecorded hpods haddress
  refine ⟨hknown, fun name => Option.ext fun r => ?_, ?_, haddress, hsame,
    fun a r hr honly => ?_⟩
  · exact hagrees'.findByName?_eq_some_iff.trans hagrees.findByName?_eq_some_iff.symm
  · have hpodsEq : ∀ d : Directory, Agrees m.pods.known d.podsOnly →
        d.pods = Int64.ofNat m.pods.known.size := fun d h =>
      h.consistent.pods_eq.trans (congrArg Int64.ofNat h.size_eq)
    exact (hpodsEq _ hagrees').trans (hpodsEq _ hagrees).symm
  · refine ((hsame a).mpr fun _ s hlast => ?_).trans hr
    obtain ⟨hmem, hs⟩ := of_lastAt? hlast
    obtain ⟨⟨ref, s⟩, hentry, rfl⟩ := List.mem_map.mp hmem
    rw [honly ref s ((hrecorded.mem_identified_iff hpods).mp hentry) hs]
    exact hr

/-- A listing of what is known after one of two pods with an address has been deleted: the other
one is found again. -/
theorem relisting_of_known_after_takeover :
    let pod (name address : String) : Pod :=
      { metadata := { name := some name, ns := some "c" }, status := some { podIP := address } }
    let record (name address : String) : PodRecord :=
      { key := ⟨name, "c"⟩, address, snapshot := pod name address }
    let before : List MonitorStep := [.watch .pod (.changed (pod "a" "10.0.0.1")),
      .watch .pod (.changed (pod "b" "10.0.0.2")), .watch .pod (.changed (pod "d" "10.0.0.1")),
      .watch .pod (.deleted (pod "d" "10.0.0.1"))]
    let pods := [pod "b" "10.0.0.2", pod "a" "10.0.0.1"]
    let listing : List MonitorStep := [.watch .pod .listingStarted,
      .watch .pod (.listed (pod "b" "10.0.0.2")), .mark .node,
      .watch .pod (.listed (pod "a" "10.0.0.1")), .watch .pod .listingDone]
    let m := (run { directory := .new Directory.defaultRequired false } before).1
    let m' := (m.run listing).1
    pods.Perm (deliveredPods m.pods.known) ∧ m'.pods.known = m.pods.known ∧
      m.directory.findByAddress? "10.0.0.1" = none ∧
      m'.directory.findByAddress? "10.0.0.1" = some (record "a" "10.0.0.1") ∧
      m'.directory.findByAddress? "10.0.0.2" = some (record "b" "10.0.0.2") := by
  intro pod record before pods listing m m'
  have hlisting : listing.filterMap MonitorStep.podEvent? = listingOf pods := rfl
  have start : Steps.Path Takes { directory := .new Directory.defaultRequired false } before m :=
    path_run _ before
  have path : Steps.Path Takes m listing m' := path_run m listing
  have hspare : ∀ s ∈ before ++ listing, s.SparesPods := by decide
  have hdot : ∀ e ∈ before.filterMap MonitorStep.podEvent?, e.HasDotlessNs := by decide
  have hpods : pods.Perm (deliveredPods m.pods.known) := by decide +kernel
  obtain ⟨hknown, -, -, haddress, hsame, -⟩ :=
    relisting_of_known start path hspare hdot hlisting hpods
  refine ⟨hpods, hknown, by decide +kernel, ?_, ?_⟩
  · rw [haddress _ (by decide)]
    decide +kernel
  · have hlast : lastAt? "10.0.0.2" ((identified pods).map Prod.snd)
        = some (record "b" "10.0.0.2") := by decide +kernel
    have hholder : m.directory.findByAddress? "10.0.0.2" = some (record "b" "10.0.0.2") := by
      decide +kernel
    refine ((hsame "10.0.0.2").mpr fun _ r hr => ?_).trans hholder
    rwa [← hlast.symm.trans hr]

/-- **A listing of what is known can change the answer for an address**: it has been taken over by
the second pod, and the first one is listed last. -/
theorem findByAddress?_changed_by_relisting :
    let pod (name : String) : Pod :=
      { metadata := { name := some name, ns := some "c" }, status := some { podIP := "10.0.0.1" } }
    let before : List MonitorStep :=
      [.watch .pod (.changed (pod "a")), .watch .pod (.changed (pod "b"))]
    let pods := [pod "b", pod "a"]
    let listing : List MonitorStep := (listingOf pods).map (.watch .pod)
    let m := (run { directory := .new Directory.defaultRequired false } before).1
    let m' := (m.run listing).1
    (∀ s ∈ before ++ listing, s.SparesPods) ∧
      (∀ e ∈ before.filterMap MonitorStep.podEvent?, e.HasDotlessNs) ∧
      pods.Perm (deliveredPods m.pods.known) ∧
      ¬ ∀ a, m'.directory.findByAddress? a = m.directory.findByAddress? a := by
  intro pod before pods listing m m'
  refine ⟨by decide, by decide, by decide +kernel, fun h => ?_⟩
  have hfirst : (m.directory.findByAddress? "10.0.0.1").map PodRecord.key = some ⟨"b", "c"⟩ := by
    decide +kernel
  have hlast : (m'.directory.findByAddress? "10.0.0.1").map PodRecord.key = some ⟨"a", "c"⟩ := by
    decide +kernel
  rw [h, hfirst] at hlast
  revert hlast
  decide

end Monitor

end PodDirectory
