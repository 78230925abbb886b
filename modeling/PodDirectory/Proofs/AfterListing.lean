import PodDirectory.Proofs.Interleavings
import PodDirectory.Proofs.Relisting

/-!
# What is left after a complete listing

A listing that was broken off has passed objects on and left some of them behind. When the next
listing is complete, nothing of this is left: the tracker is what the complete listing makes of
any tracker (`Tracker.run_completeListing_eq`), and the directory has of the kind what it would
have had without the listing that was broken off (`Monitor.sameOn_completeListing`).

For pods this needs namespaces without dots and, in the complete listing, pods with different
refs (`Tidy`); then the tables mirror the listing. The counters of slices do not go by what is in
a table. They agree because events that delete nothing keep the difference between a counter and
what the known slices weigh.
-/

namespace PodDirectory

open Std (ExtTreeMap)

variable {k : Kind}

/-- Whether an event belongs to a listing that is not done yet. -/
def WatchEvent.IsListing : WatchEvent k → Prop
  | .listingStarted | .listed _ => True
  | .listingDone | .changed _ | .deleted _ => False

/-- The events of a complete listing of some objects. -/
def completeListing (objects : List k.Object) : List (WatchEvent k) :=
  .listingStarted :: (objects.map .listed ++ [.listingDone])

theorem WatchEvent.IsListing.ne_deleted {e : WatchEvent k} (h : e.IsListing) (o : k.Object) :
    e ≠ .deleted o := by
  rintro rfl
  exact h

theorem ne_deleted_of_mem_completeListing {objects : List k.Object} {e : WatchEvent k}
    (h : e ∈ completeListing objects) (o : k.Object) : e ≠ .deleted o := by
  rintro rfl
  simp [completeListing] at h

/-! ## Trackers -/

namespace Tracker

/-- **Two trackers have found the same** in the listings under way: the same refs, with the same
records, whatever else they know. -/
structure SameFound (t t' : Tracker k) : Prop where
  listing_eq : t.listing = t'.listing
  known_eq : ∀ ref, ¬ t.Misses ref → t.known[ref]? = t'.known[ref]?

/-- When a listing starts nothing is found. -/
theorem sameFound_start (t t' : Tracker k) :
    SameFound (t.step .listingStarted).1 (t'.step .listingStarted).1 where
  listing_eq := rfl
  known_eq ref h := absurd ⟨∅, rfl, by simp⟩ h

/-- An object that is listed is found by both. -/
theorem SameFound.listed {t t' : Tracker k} (h : SameFound t t') (o : k.Object) :
    SameFound (t.step (.listed o)).1 (t'.step (.listed o)).1 := by
  rw [step_listed, step_listed]
  cases ho : k.identify o with
  | error defect => exact h
  | ok found =>
    obtain ⟨ref, record⟩ := found
    refine ⟨?_, fun ref' hfound => ?_⟩
    · show t.listing.map (·.insert ref) = t'.listing.map (·.insert ref)
      rw [h.listing_eq]
    · show ((t.see ref).deliver ref record _).1.known[ref']?
        = ((t'.see ref).deliver ref record _).1.known[ref']?
      rw [getElem?_known_deliver, getElem?_known_deliver]
      split
      · rfl
      · next hne =>
        refine h.known_eq ref' fun hmiss => hfound ?_
        exact misses_see.mpr ⟨hmiss, Ne.symm hne⟩

/-- What a listing has found is known as before when it is done. -/
theorem getElem?_known_done_of_found {t : Tracker k} {ref : ObjectRef} (h : ¬ t.Misses ref) :
    (t.step .listingDone).1.known[ref]? = t.known[ref]? := by
  show (t.finishListing t.vanished).1.known[ref]? = _
  rw [getElem?_known_finishListing, if_neg fun hgone => h (mem_vanished.mp hgone).2]

/-- What a listing has missed is not known when it is done. -/
theorem getElem?_known_done_of_missed {t : Tracker k} {ref : ObjectRef} (h : t.Misses ref) :
    (t.step .listingDone).1.known[ref]? = none := by
  show (t.finishListing t.vanished).1.known[ref]? = _
  rw [getElem?_known_finishListing]
  split
  · rfl
  · next hkept =>
    exact ExtTreeMap.getElem?_eq_none fun hknown => hkept (mem_vanished.mpr ⟨hknown, h⟩)

/-- When both listings are done, the trackers are equal. -/
theorem SameFound.done {t t' : Tracker k} (h : SameFound t t') :
    (t.step .listingDone).1 = (t'.step .listingDone).1 := by
  have hmisses : ∀ ref, t.Misses ref ↔ t'.Misses ref := fun ref => by
    unfold Misses
    rw [h.listing_eq]
  refine Tracker.ext (ExtTreeMap.ext_getElem? fun ref => ?_) ?_ rfl
  · by_cases hm : t.Misses ref
    · rw [getElem?_known_done_of_missed hm, getElem?_known_done_of_missed ((hmisses ref).mp hm)]
    · rw [getElem?_known_done_of_found hm, h.known_eq ref hm,
        getElem?_known_done_of_found (mt (hmisses ref).mpr hm)]
  · exact (listing_finishListing t _).trans (listing_finishListing t' _).symm

/-- **After a complete listing a tracker depends on the listing alone.** -/
theorem run_completeListing_eq (t t' : Tracker k) (objects : List k.Object) :
    (t.run (completeListing objects)).1 = (t'.run (completeListing objects)).1 := by
  have hlisted : ∀ (objects : List k.Object) {t t' : Tracker k}, SameFound t t' →
      SameFound (t.run (objects.map .listed)).1 (t'.run (objects.map .listed)).1 := by
    intro objects
    induction objects with
    | nil => exact id
    | cons o objects ih => exact fun h => ih (h.listed o)
  have hfound := hlisted objects (sameFound_start t t')
  show (Steps.run step (t.step .listingStarted).1 (objects.map .listed ++ [.listingDone])).1
    = (Steps.run step (t'.step .listingStarted).1 (objects.map .listed ++ [.listingDone])).1
  rw [Steps.run_append, Steps.run_append]
  exact hfound.done

end Tracker

/-! ## Monitors -/

namespace Monitor

theorem watchAll_append (m : Monitor) (first second : List (WatchEvent k)) :
    (m.watchAll k (first ++ second)).1
      = ((m.watchAll k first).1.watchAll k second).1 := by
  unfold watchAll
  rw [Steps.run_append]

/-- The tracker of a kind goes by the events of the kind. -/
theorem tracker_watchAll (m : Monitor) (events : List (WatchEvent k)) :
    (m.watchAll k events).1.tracker k = ((m.tracker k).run events).1 := by
  induction events generalizing m with
  | nil => rfl
  | cons e events ih =>
    show ((m.watch k e).1.watchAll k events).1.tracker k = (((m.tracker k).step e).1.run events).1
    rw [ih, tracker_watch]

/-- The directory goes by what the tracker wants done. -/
theorem directory_watchAll (m : Monitor) (events : List (WatchEvent k)) :
    (m.watchAll k events).1.directory
      = (m.directory.performAll ((m.tracker k).run events).2).1 := by
  induction events generalizing m with
  | nil => rfl
  | cons e events ih =>
    show ((m.watch k e).1.watchAll k events).1.directory
      = (m.directory.performAll
          (((m.tracker k).step e).2 ++ (((m.tracker k).step e).1.run events).2)).1
    rw [ih, tracker_watch, Directory.performAll, Directory.performAll, Steps.run_append]
    rfl

/-- **Events that delete nothing change the counters of slices by as much as what the known
slices weigh.** -/
theorem slices_watchAll (m : Monitor) {events : List (WatchEvent .endpointSlice)}
    (h : ∀ e ∈ events, ∀ o, e ≠ .deleted o) :
    let after := (m.watchAll .endpointSlice events).1
    after.directory.slices + Int64.ofNat (weigh (fun _ => 1) m.slices.known)
        = m.directory.slices + Int64.ofNat (weigh (fun _ => 1) after.slices.known) ∧
      after.directory.sliceAddresses + Int64.ofNat (weigh (·.addressCount) m.slices.known)
        = m.directory.sliceAddresses
          + Int64.ofNat (weigh (·.addressCount) after.slices.known) := by
  intro after
  have htracker : after.slices = (m.slices.run events).1 := m.tracker_watchAll events
  have hdirectory : after.directory = (m.directory.performAll (m.slices.run events).2).1 :=
    m.directory_watchAll events
  obtain ⟨hslices, haddresses⟩ := m.directory.slices_performAll (m.slices.run events).2
  rw [hdirectory, htracker, hslices, haddresses, ← Tracker.gain_run _ _ h,
    ← Tracker.gain_run _ _ h]
  constructor <;> grind

/-- If events that delete nothing lead to the same known slices, they lead to the same
counters. -/
theorem slices_eq_of_tracker_eq (m : Monitor) {events events' : List (WatchEvent .endpointSlice)}
    (h : ∀ e ∈ events, ∀ o, e ≠ .deleted o) (h' : ∀ e ∈ events', ∀ o, e ≠ .deleted o)
    (htracker : (m.watchAll .endpointSlice events).1.slices
      = (m.watchAll .endpointSlice events').1.slices) :
    (m.watchAll .endpointSlice events).1.directory.slices
        = (m.watchAll .endpointSlice events').1.directory.slices ∧
      (m.watchAll .endpointSlice events).1.directory.sliceAddresses
        = (m.watchAll .endpointSlice events').1.directory.sliceAddresses := by
  obtain ⟨hslices, haddresses⟩ := m.slices_watchAll h
  obtain ⟨hslices', haddresses'⟩ := m.slices_watchAll h'
  rw [htracker] at hslices haddresses
  exact ⟨(Int64.add_left_inj _).mp (hslices.trans hslices'.symm),
    (Int64.add_left_inj _).mp (haddresses.trans haddresses'.symm)⟩

end Monitor

/-! ## What of the pods is needed -/

/-- **Events whose pods can be told apart**: no namespace has a dot, and within each complete
listing the refs differ. Of other kinds nothing is needed. -/
def Tidy : (k : Kind) → List (WatchEvent k) → Prop
  | .pod, events => (∀ e ∈ events, e.HasDotlessNs) ∧
      ∀ before pods after, events = before ++ listingOf pods ++ after →
        ((identified pods).map Prod.fst).Nodup
  | .node, _ => True
  | .endpointSlice, _ => True

theorem Tidy.append {first second : List (WatchEvent k)} (h : Tidy k (first ++ second)) :
    Tidy k first ∧ Tidy k second := by
  cases k with
  | node => exact ⟨trivial, trivial⟩
  | endpointSlice => exact ⟨trivial, trivial⟩
  | pod =>
    obtain ⟨hdot, hdistinct⟩ := h
    refine ⟨⟨fun e he => hdot e (List.mem_append_left _ he), fun before pods after heq => ?_⟩,
      ⟨fun e he => hdot e (List.mem_append_right _ he), fun before pods after heq => ?_⟩⟩
    · exact hdistinct before pods (after ++ second) (by rw [heq]; simp)
    · exact hdistinct (first ++ before) pods after (by rw [heq]; simp)

namespace Monitor

/-- Whether the tracker of a kind and the directory agree, if it is the tracker of pods. -/
def Sound : (k : Kind) → Monitor → Prop
  | .pod, m => Agrees m.pods.known m.directory.podsOnly
  | .node, _ => True
  | .endpointSlice, _ => True

/-- The pods of a monitor follow events of pods. -/
theorem follows_watchAll (m : Monitor) (events : List (WatchEvent .pod)) :
    Steps.Path Follows m.podsPart events (m.watchAll .pod events).1.podsPart := by
  induction events generalizing m with
  | nil => exact .nil _
  | cons e events ih =>
    exact .cons ((Takes.step (.watch .pod e)).follows rfl) (ih (m.watch .pod e).1)

theorem Sound.watchAll {m : Monitor} (h : Sound k m) {events : List (WatchEvent k)}
    (hevents : Tidy k events) : Sound k (m.watchAll k events).1 := by
  cases k with
  | node => trivial
  | endpointSlice => trivial
  | pod => exact Agrees.of_path (s := m.podsPart) h (m.follows_watchAll events) hevents.1

end Monitor

/-- What mirrors the same listing has the same pods. -/
theorem Mirrors.podsOnly_eq {found : List (ObjectRef × PodRecord)}
    {known known' : ExtTreeMap ObjectRef PodRecord} {d d' : Directory} (h : Mirrors found known d)
    (h' : Mirrors found known' d') (hempty : d.findByAddress? "" = none)
    (hempty' : d'.findByAddress? "" = none) : d.podsOnly = d'.podsOnly := by
  refine Directory.podsOnly_eq_iff.mpr ⟨?_, ?_, h.pods_eq.trans h'.pods_eq.symm⟩
  · refine ExtTreeMap.ext_getElem? fun name => Option.ext fun r => ?_
    exact (h.findByName?_iff name r).trans (h'.findByName?_iff name r).symm
  · refine ExtTreeMap.ext_getElem? fun a => ?_
    by_cases ha : a = ""
    · subst ha
      exact hempty.trans hempty'.symm
    · exact (h.findByAddress?_eq a ha).trans (h'.findByAddress?_eq a ha).symm

namespace Monitor

/-- A complete listing marks its kind. -/
theorem listed_completeListing (m : Monitor) (objects : List k.Object) :
    (m.watchAll k (completeListing objects)).1.directory.readiness.listed.contains k = true := by
  have hsteps : ∀ s ∈ (completeListing objects).map (MonitorStep.watch k), s.SparesMarks := by
    intro s hs
    obtain ⟨e, -, rfl⟩ := List.mem_map.mp hs
    trivial
  rw [watchAll_eq_run, contains_listed_iff (path_run m _) hsteps]
  exact Or.inr (List.mem_map_of_mem (by simp [completeListing]))

/-- When a listing of pods is complete, the directory mirrors it. -/
theorem mirrors_completeListing {m : Monitor} (h : Sound .pod m) {pods : List Pod}
    (htidy : Tidy .pod (completeListing pods)) :
    let after := (m.watchAll .pod (completeListing pods)).1
    Mirrors (identified pods) after.pods.known after.directory.podsOnly ∧
      after.directory.podsOnly.findByAddress? "" = none := by
  intro after
  have hdot : ∀ pod ∈ pods, WatchEvent.HasDotlessNs (.listed pod) := fun pod hpod =>
    htidy.1 _ (by simp [completeListing, hpod])
  have hdistinct := htidy.2 [] pods [] (List.append_nil _).symm
  have hbefore : Agrees m.podsPart.1.known m.podsPart.2 := h
  have hafter : Agrees after.pods.known after.directory.podsOnly := Sound.watchAll h htidy
  exact ⟨hbefore.mirrors_of_path (m.follows_watchAll _) hdot hdistinct,
    hafter.consistent.findByAddress?_empty⟩

/-- **What came of a listing that was broken off is gone when a listing is complete.** -/
theorem sameOn_completeListing {m : Monitor} (h : Sound k m) {failed : List (WatchEvent k)}
    (hfailed : ∀ e ∈ failed, e.IsListing) {objects : List k.Object}
    (htidy : Tidy k (failed ++ completeListing objects)) :
    SameOn k (m.watchAll k (failed ++ completeListing objects)).1
      (m.watchAll k (completeListing objects)).1 := by
  have hsplit := m.watchAll_append failed (completeListing objects)
  have htracker : (m.watchAll k (failed ++ completeListing objects)).1.tracker k
      = (m.watchAll k (completeListing objects)).1.tracker k := by
    rw [hsplit, tracker_watchAll, tracker_watchAll, tracker_watchAll]
    exact Tracker.run_completeListing_eq _ _ objects
  have hlisting : ∀ e ∈ failed ++ completeListing objects, ∀ o, e ≠ .deleted o := fun e he =>
    (List.mem_append.mp he).elim (fun he => (hfailed e he).ne_deleted)
      ne_deleted_of_mem_completeListing
  have hlisting' := fun e (he : e ∈ completeListing objects) =>
    hlisting e (List.mem_append_right failed he)
  obtain ⟨hbefore, hcomplete⟩ := htidy.append
  refine ⟨htracker, ?_, ?_, fun hk => ?_, fun hk => ?_, fun hk => ?_⟩
  · rw [directory_watchAll, directory_watchAll, Directory.logsNodeUpdates_performAll,
      Directory.logsNodeUpdates_performAll]
  · rw [hsplit, listed_completeListing, listed_completeListing]
  · subst hk
    obtain ⟨hmirrors, hempty⟩ := mirrors_completeListing (Sound.watchAll h hbefore) hcomplete
    obtain ⟨hmirrors', hempty'⟩ := mirrors_completeListing h hcomplete
    have hpods := hmirrors.podsOnly_eq hmirrors' hempty hempty'
    rw [hsplit]
    exact hpods
  · subst hk
    exact (m.slices_eq_of_tracker_eq hlisting hlisting' htracker).1
  · subst hk
    exact (m.slices_eq_of_tracker_eq hlisting hlisting' htracker).2

end Monitor

end PodDirectory
