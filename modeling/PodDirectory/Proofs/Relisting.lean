import Mathlib.Data.List.Induction
import PodDirectory.Proofs.PodAgreement

/-!
# A complete listing starts afresh

Whatever a monitor has been through, when a listing of pods is complete the tracker and the
directory have exactly the pods of this listing, and have them as the listing has them. What
was left over from before is gone: pods that vanished, addresses that have another pod now,
and whatever an earlier listing left undone.

While the listing goes on, old and new stand side by side, and what is true of the new part
is `Listed`: the pods listed so far are known with their records, all others are missed, and
an address that a listed pod has leads to the last listed one. The deletions at the end find
only pods that were missed, and touch nothing of the others.
-/

namespace PodDirectory

open Std (ExtTreeMap)

/-! ## What a listing says -/

/-- The events of a complete listing. -/
def listingOf (pods : List Pod) : List (WatchEvent .pod) :=
  .listingStarted :: (pods.map (fun pod => .listed pod) ++ [.listingDone])

/-- **The pods of a listing** that can be identified, each with its ref and its record. -/
def identified (pods : List Pod) : List (ObjectRef × PodRecord) :=
  pods.filterMap fun pod => (Kind.identify .pod pod).toOption

/-- The last of some records with an address. -/
def lastAt? (a : String) (records : List PodRecord) : Option PodRecord :=
  (records.filter (·.address = a)).getLast?

theorem identified_concat (pods : List Pod) (pod : Pod) :
    identified (pods ++ [pod])
      = identified pods ++ (Kind.identify .pod pod).toOption.toList := by
  unfold identified
  rw [List.filterMap_append]
  cases h : Kind.identify .pod pod <;> simp [h, Except.toOption]

theorem lastAt?_concat (a : String) (records : List PodRecord) (r : PodRecord) :
    lastAt? a (records ++ [r]) = if r.address = a then some r else lastAt? a records := by
  unfold lastAt?
  rw [List.filter_append]
  by_cases h : r.address = a <;> simp [h]

/-- The last of the records with an address is one of them, and has the address. -/
theorem of_lastAt? {a : String} {records : List PodRecord} {r : PodRecord}
    (h : lastAt? a records = some r) : r ∈ records ∧ r.address = a := by
  obtain ⟨hmem, ha⟩ := List.mem_filter.mp (List.mem_of_getLast? h)
  exact ⟨hmem, of_decide_eq_true ha⟩

/-- Where a record has an address, there is a last one that has it. -/
theorem lastAt?_ne_none {a : String} {records : List PodRecord} {r : PodRecord}
    (hmem : r ∈ records) (ha : r.address = a) : lastAt? a records ≠ none := by
  unfold lastAt?
  rw [ne_eq, List.getLast?_eq_none_iff]
  exact List.ne_nil_of_mem (List.mem_filter.mpr ⟨hmem, decide_eq_true ha⟩)

/-! ## While the listing goes on -/

/-- **In the middle of a listing**: how a tracker and a directory stand to what the listing
has found so far. -/
structure Listed (found : List (ObjectRef × PodRecord)) (t : Tracker .pod) (d : Directory) :
    Prop where
  agrees : Agrees t.known d
  /-- The listing misses what it has not found. -/
  misses_iff : ∀ ref, t.Misses ref ↔ ref ∉ found.map Prod.fst
  /-- What was found is known. -/
  known : ∀ {ref r}, (ref, r) ∈ found → t.known[ref]? = some r
  /-- An address leads to the last pod that was found with it, if there is one. -/
  address : ∀ {a r}, a ≠ "" → lastAt? a (found.map Prod.snd) = some r →
    d.findByAddress? a = some r

namespace Listed

variable {found : List (ObjectRef × PodRecord)} {t t' : Tracker .pod} {d : Directory}
  {effects : List Effect} {pod : Pod}

/-- At the start nothing is found, whatever is known. -/
theorem start (h : Agrees t.known d)
    (step : Tracker.Outcome t .listingStarted t' effects) :
    Listed [] t' (d.callAll (effects.filterMap Effect.podCall?)) where
  agrees := h.outcome step fun pod hpod => by cases hpod
  misses_iff ref := by simp [step.misses_iff]
  known h := absurd h List.not_mem_nil
  address _ h := by cases h

/-- A record is found under the ref of its own key. -/
theorem ref_mem (h : Listed found t d) {r : PodRecord} (hr : r ∈ found.map Prod.snd) :
    r.key.ref ∈ found.map Prod.fst := by
  obtain ⟨⟨ref, r⟩, hmem, rfl⟩ := List.mem_map.mp hr
  rw [← (h.agrees.known_key (h.known hmem)).1]
  exact List.mem_map_of_mem hmem

/-- A pod that cannot be identified changes nothing. -/
theorem skip (h : Listed found t d) (step : Tracker.Outcome t (.listed pod) t' effects)
    {defect : Defect} (hi : Kind.identify .pod pod = .error defect) :
    Listed found t' (d.callAll (effects.filterMap Effect.podCall?)) := by
  obtain ⟨rfl, rfl⟩ := step.of_defective rfl hi
  exact h

/-- **A pod that is listed is found**, if no pod of its ref has been found before. -/
theorem find (h : Listed found t d) (step : Tracker.Outcome t (.listed pod) t' effects)
    (hdot : WatchEvent.HasDotlessNs (.listed pod)) {ref : ObjectRef} {r : PodRecord}
    (hi : Kind.identify .pod pod = .ok (ref, r)) (hnew : ref ∉ found.map Prod.fst) :
    Listed (found ++ [(ref, r)]) t' (d.callAll (effects.filterMap Effect.podCall?)) := by
  have hagrees := h.agrees.outcome step hdot
  obtain ⟨_, rfl, rfl⟩ | ⟨⟨⟩, _⟩ | ⟨⟨⟩, _⟩ := step.of_identified rfl hi
  obtain ⟨rfl, hns⟩ := ref_of_identify hi
  rw [podCalls_deliver] at hagrees ⊢
  refine ⟨hagrees, fun ref' => ?_, fun {ref' r'} hmem => ?_, fun {a r'} ha hlast => ?_⟩
  · show (t.see r.key.ref).Misses ref' ↔ _
    rw [Tracker.misses_see, h.misses_iff, List.map_append, List.mem_append, not_or]
    simp [eq_comm]
  · rw [Tracker.getElem?_known_deliver]
    rcases List.mem_append.mp hmem with hmem | hmem
    · have hne : ref' ≠ r.key.ref := by
        rintro rfl
        exact hnew (List.mem_map_of_mem hmem)
      rw [if_neg hne]
      exact h.known hmem
    · obtain ⟨rfl, rfl⟩ := Prod.mk.inj (List.mem_singleton.mp hmem)
      rw [if_pos rfl]
  · show (d.upsert r).findByAddress? a = some r'
    rw [h.agrees.consistent.findByAddress?_upsert (hdot pod rfl _ hns)]
    rw [List.map_append, List.map_singleton, lastAt?_concat] at hlast
    by_cases hr : r.address = a
    · rw [if_pos hr] at hlast
      rw [if_pos ⟨ha, hr⟩]
      exact hlast
    · -- the pod that had the address is another one, and keeps it
      rw [if_neg hr] at hlast
      rw [if_neg fun h => hr h.2, h.address ha hlast, Option.filter_some, if_pos]
      exact decide_eq_true fun hk => hnew (hk ▸ h.ref_mem (of_lastAt? hlast).1)

/-- **Along the listing** the pods are found one after the other, if their refs differ. -/
theorem of_path {s s' : Tracker .pod × Directory} (h : Listed [] s.1 s.2) {pods : List Pod}
    (path : Steps.Path Follows s (pods.map fun pod => .listed pod) s')
    (hdot : ∀ pod ∈ pods, WatchEvent.HasDotlessNs (.listed pod))
    (hdistinct : ((identified pods).map Prod.fst).Nodup) :
    Listed (identified pods) s'.1 s'.2 := by
  induction pods using List.reverseRecOn generalizing s' with
  | nil =>
    obtain rfl := Steps.path_nil_iff.mp path
    exact h
  | append_singleton pods pod ih =>
    rw [List.map_append, List.map_singleton] at path
    obtain ⟨mid, first, effects, htakes, hd⟩ := Steps.path_concat_iff.mp path
    rw [identified_concat, List.map_append, List.nodup_append] at hdistinct
    obtain ⟨hbefore, -, hnew⟩ := hdistinct
    have hmid := ih first (fun p hp => hdot p (by simp [hp])) hbefore
    have hpod := hdot pod (by simp)
    rw [identified_concat, hd]
    cases hi : Kind.identify .pod pod with
    | error defect =>
      have hskip := hmid.skip htakes.outcome hi
      rwa [← List.append_nil (identified pods)] at hskip
    | ok found =>
      refine hmid.find htakes.outcome hpod hi fun hmem => hnew _ hmem found.1 ?_ rfl
      simp [hi, Except.toOption]

end Listed

/-! ## The end of the listing -/

/-- An address that has a pod which is not forgotten keeps it. -/
theorem Agrees.findByAddress?_forget {t : Tracker .pod} {d : Directory} (h : Agrees t.known d)
    {gone : List ObjectRef} {a : String} {r : PodRecord} (ha : d.findByAddress? a = some r)
    (hr : r.key.ref ∉ gone) :
    (d.callAll ((t.forget gone).2.filterMap Effect.podCall?)).findByAddress? a = some r := by
  induction gone generalizing t d with
  | nil => exact ha
  | cons g gone ih =>
    have hrest : r.key.ref ∉ gone := fun hmem => hr (List.mem_cons_of_mem g hmem)
    unfold Tracker.forget
    cases hg : t.known[g]? with
    | none => exact ih h ha hrest
    | some last =>
      obtain ⟨rfl, hdot⟩ := h.known_key hg
      refine ih (t := { t with known := t.known.erase last.key.ref }) (h.erase hdot) ?_ hrest
      have hne : r.key ≠ last.key := fun hk => hr (by simp [hk])
      show (d.remove last).findByAddress? a = some r
      rw [h.consistent.findByAddress?_remove hdot, ha, Option.filter_some,
        if_pos (decide_eq_true hne)]

/-- **A tracker and a directory mirror a listing**: they have its pods and no others, and
depend on nothing else. -/
structure Mirrors (found : List (ObjectRef × PodRecord))
    (known : ExtTreeMap ObjectRef PodRecord) (d : Directory) : Prop where
  known_iff : ∀ ref r, known[ref]? = some r ↔ (ref, r) ∈ found
  findByName?_iff : ∀ name r,
    d.findByName? name = some r ↔ r ∈ found.map Prod.snd ∧ r.key.text = name
  /-- Where pods share an address, it is the one's that was listed last. -/
  findByAddress?_eq : ∀ a, a ≠ "" → d.findByAddress? a = lastAt? a (found.map Prod.snd)
  size_eq : known.size = found.length
  pods_eq : d.stats.pods = Int64.ofNat found.length
  indexedNames_eq : d.stats.indexedNames = found.length

/-- Where exactly the found pods are known, there are as many as were found. -/
theorem size_eq_length {known : ExtTreeMap ObjectRef PodRecord}
    {found : List (ObjectRef × PodRecord)} (hdistinct : (found.map Prod.fst).Nodup)
    (h : ∀ ref r, known[ref]? = some r ↔ (ref, r) ∈ found) : known.size = found.length := by
  have hperm : known.keys.Perm (found.map Prod.fst) := by
    refine (List.perm_ext_iff_of_nodup ExtTreeMap.nodup_keys hdistinct).mpr fun ref => ?_
    rw [ExtTreeMap.mem_keys, ExtTreeMap.mem_iff_isSome_getElem?, Option.isSome_iff_exists,
      List.mem_map]
    constructor
    · rintro ⟨r, hr⟩
      exact ⟨(ref, r), (h ref r).mp hr, rfl⟩
    · rintro ⟨⟨ref, r⟩, hmem, rfl⟩
      exact ⟨r, (h ref r).mpr hmem⟩
  rw [← ExtTreeMap.length_keys, hperm.length_eq, List.length_map]

/-- What agrees with what is known after a listing mirrors the listing, if the addresses of
the listed pods lead to them. -/
theorem Agrees.mirrors {known : ExtTreeMap ObjectRef PodRecord} {d : Directory}
    (h : Agrees known d) {found : List (ObjectRef × PodRecord)}
    (hdistinct : (found.map Prod.fst).Nodup)
    (hknown : ∀ ref r, known[ref]? = some r ↔ (ref, r) ∈ found)
    (haddress : ∀ {a r}, a ≠ "" → lastAt? a (found.map Prod.snd) = some r →
      d.findByAddress? a = some r) : Mirrors found known d := by
  have hsize := size_eq_length hdistinct hknown
  have hrecord : ∀ r, known[r.key.ref]? = some r ↔ r ∈ found.map Prod.snd := by
    intro r
    rw [hknown, List.mem_map]
    constructor
    · intro hmem
      exact ⟨_, hmem, rfl⟩
    · rintro ⟨⟨ref, r⟩, hmem, rfl⟩
      obtain ⟨rfl, -⟩ := h.known_key ((hknown ref r).mpr hmem)
      exact hmem
  refine ⟨hknown, fun name r => ?_, fun a ha => ?_, hsize, ?_, h.size_eq.trans hsize⟩
  · rw [h.findByName?_eq_some_iff, hrecord]
  · cases hlast : lastAt? a (found.map Prod.snd) with
    | some r => exact haddress ha hlast
    | none =>
      -- a holder is found under its name, so it is one of the listed pods
      refine Option.eq_none_iff_forall_ne_some.mpr fun holder hholder => ?_
      have hnamed := h.findByName?_eq_some_iff.mp (h.consistent.named hholder)
      exact lastAt?_ne_none ((hrecord holder).mp hnamed.1)
        (h.consistent.address_eq hholder).2 hlast
  · rw [← hsize, ← h.size_eq]
    exact h.consistent.pods_eq

/-- **When the listing is done**, the tracker and the directory mirror it. -/
theorem Listed.done {found : List (ObjectRef × PodRecord)} {t t' : Tracker .pod} {d : Directory}
    {effects : List Effect} (h : Listed found t d) (hdistinct : (found.map Prod.fst).Nodup)
    (step : Tracker.Outcome t .listingDone t' effects) :
    Mirrors found t'.known (d.callAll (effects.filterMap Effect.podCall?)) := by
  have hagrees := h.agrees.outcome step fun pod hpod => by cases hpod
  obtain ⟨gone, hgone, rfl, rfl⟩ := step.of_listingDone
  have hmem : ∀ ref, ref ∈ gone ↔ ref ∈ t.known ∧ ref ∉ found.map Prod.fst := by
    intro ref
    rw [hgone.mem_iff, Tracker.mem_vanished, h.misses_iff]
  refine hagrees.mirrors hdistinct (fun ref r => ?_) fun {a r} ha hlast => ?_
  · rw [Tracker.getElem?_known_finishListing]
    constructor
    · intro hr
      split at hr
      · exact absurd hr (by simp)
      · next hkept =>
        -- what is known and was not forgotten has been found
        obtain ⟨hin, -⟩ := ExtTreeMap.getElem?_eq_some_iff.mp hr
        have hfound : ref ∈ found.map Prod.fst := by
          by_contra hnot
          exact hkept ((hmem ref).mpr ⟨hin, hnot⟩)
        obtain ⟨⟨ref, r'⟩, hr', rfl⟩ := List.mem_map.mp hfound
        obtain rfl : r' = r := Option.some.inj ((h.known hr').symm.trans hr)
        exact hr'
    · intro hr
      rw [if_neg fun hg => ((hmem ref).mp hg).2 (List.mem_map_of_mem hr)]
      exact h.known hr
  · rw [podCalls_finishListing]
    have hr := h.ref_mem (of_lastAt? hlast).1
    exact Agrees.findByAddress?_forget (t := { t with listing := none }) h.agrees
      (h.address ha hlast) fun hg => ((hmem _).mp hg).2 hr

/-- **A complete listing starts afresh**, from whatever agrees. -/
theorem Agrees.mirrors_of_path {s s' : Tracker .pod × Directory} (h : Agrees s.1.known s.2)
    {pods : List Pod} (path : Steps.Path Follows s (listingOf pods) s')
    (hdot : ∀ pod ∈ pods, WatchEvent.HasDotlessNs (.listed pod))
    (hdistinct : ((identified pods).map Prod.fst).Nodup) :
    Mirrors (identified pods) s'.1.known s'.2 := by
  obtain ⟨first, ⟨effects, htakes, hfirst⟩, rest⟩ := Steps.path_cons_iff.mp path
  obtain ⟨last, hpath, effects', htakes', hlast⟩ := Steps.path_concat_iff.mp rest
  have hstart : Listed [] first.1 first.2 := by
    rw [hfirst]
    exact .start h htakes.outcome
  have hlisted := hstart.of_path hpath hdot hdistinct
  rw [hlast]
  exact hlisted.done hdistinct htakes'.outcome

/-! ## Any listing of a monitor -/

namespace Monitor

/-- **A complete listing starts afresh.** Whatever has happened before, and whatever else
happens in between, when the pods of a listing have been listed and the listing is done, the
tracker and the directory mirror it. -/
theorem mirrors_of_listing {required : KindSet} {logsNodeUpdates : Bool}
    {before listing : List MonitorStep} {m m' : Monitor}
    (start : Steps.Path Takes { directory := .new required logsNodeUpdates } before m)
    (path : Steps.Path Takes m listing m')
    (hspare : ∀ s ∈ before ++ listing, s.SparesPods)
    (hdot : ∀ e ∈ (before ++ listing).filterMap MonitorStep.podEvent?, e.HasDotlessNs)
    {pods : List Pod} (hlisting : listing.filterMap MonitorStep.podEvent? = listingOf pods)
    (hdistinct : ((identified pods).map Prod.fst).Nodup) :
    Mirrors (identified pods) m'.pods.known m'.directory := by
  rw [List.filterMap_append] at hdot
  have hagrees : Agrees m.pods.known m.directory.podsOnly :=
    agrees_of_path start (fun s hs => hspare s (by simp [hs])) fun e he => hdot e (by simp [he])
  have hfollows := follows_of_path path fun s hs => hspare s (by simp [hs])
  rw [hlisting] at hfollows hdot
  have hpods : ∀ pod ∈ pods, WatchEvent.HasDotlessNs (.listed pod) := fun pod hpod =>
    hdot _ (by simp [listingOf, hpod])
  -- the answers of a directory about pods are those of its pods
  obtain ⟨hknown, hname, haddress, hsize, hcount, hnames⟩ :=
    hagrees.mirrors_of_path hfollows hpods hdistinct
  exact ⟨hknown, hname, haddress, hsize, hcount, hnames⟩

/-- A listing was broken off, and in the next one a pod has vanished, another one has its
address, and a third one has none. -/
theorem mirrors_of_listing_after_abort :
    let pod (name address : String) : Pod :=
      { metadata := { name := some name, ns := some "c" }, status := some { podIP := address } }
    let nameless : Pod := {}
    let before : List MonitorStep := [.watch .pod .listingStarted,
      .watch .pod (.listed (pod "gone" "10.0.0.1")), .watch .pod (.changed (pod "b" "10.0.0.2"))]
    let pods := [pod "a" "10.0.0.1", nameless, pod "b" "10.0.0.1", pod "d" ""]
    let listing : List MonitorStep := [.watch .pod .listingStarted,
      .watch .pod (.listed (pod "a" "10.0.0.1")), .mark .node, .watch .pod (.listed nameless),
      .watch .pod (.listed (pod "b" "10.0.0.1")), .watch .pod (.listed (pod "d" "")),
      .watch .pod .listingDone]
    let record : PodRecord :=
      { key := ⟨"b", "c"⟩, address := "10.0.0.1", snapshot := pod "b" "10.0.0.1" }
    let m := (run { directory := .new Directory.defaultRequired false } before).1
    let m' := (m.run listing).1
    listing.filterMap MonitorStep.podEvent? = listingOf pods ∧
      Mirrors (identified pods) m'.pods.known m'.directory ∧
      m'.directory.findByAddress? "10.0.0.1" = some record ∧
      m'.directory.findByAddress? "10.0.0.2" = none ∧ m'.directory.stats.indexedNames = 3 := by
  intro pod nameless before pods listing record m m'
  have hlisting : listing.filterMap MonitorStep.podEvent? = listingOf pods := rfl
  have start : Steps.Path Takes { directory := .new Directory.defaultRequired false } before m :=
    path_run _ before
  have path : Steps.Path Takes m listing m' := path_run m listing
  have hspare : ∀ s ∈ before ++ listing, s.SparesPods := by decide
  have hdot : ∀ e ∈ (before ++ listing).filterMap MonitorStep.podEvent?, e.HasDotlessNs := by
    decide
  have hdistinct : ((identified pods).map Prod.fst).Nodup := by decide +kernel
  have h := mirrors_of_listing start path hspare hdot hlisting hdistinct
  refine ⟨hlisting, h, ?_, ?_, ?_⟩
  · rw [h.findByAddress?_eq _ (by decide)]
    decide +kernel
  · rw [h.findByAddress?_eq _ (by decide)]
    decide +kernel
  · rw [h.indexedNames_eq]
    decide +kernel

end Monitor

end PodDirectory
