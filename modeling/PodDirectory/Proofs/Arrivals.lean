import PodDirectory.Proofs.TrackerKinds

/-!
# Objects that become known

When an object becomes known, it matters to the log whether the first listing has found it. Of a pod
that it has found nothing is said, and a node is said to have been listed; otherwise the pod or the
node is said to have been added. That the first listing is complete is logged as well, with the
number of objects that are known then. A line of either sort is an announcement
(`LogEvent.announced?`).

What is announced at an event is told by the tracker and the event
(`Tracker.Outcome.filter_announced`): an arrival, which is an object that becomes known
(`Tracker.Outcome.arrival?_eq_some_iff`), or the end of the first listing.
-/

namespace PodDirectory

open Std (ExtTreeMap)

/-! ## Lines -/

/-- An object that becomes known; `initial` if the first listing makes it so. -/
structure Arrival where
  what : Observation
  initial : Bool
deriving DecidableEq

/-- **The line about an arrival.** Of a pod that the first listing finds nothing is said. -/
def Arrival.line? : Arrival → Option LogEvent
  | ⟨.pod r, initial⟩ => if initial then none else some (.podAdded r)
  | ⟨.node r, initial⟩ => some (if initial then .nodeListed r else .nodeAdded r)
  | ⟨.slice s, _⟩ => some (.sliceAdded s)

namespace LogEvent

/-- The kind of the object that a line says has become known. -/
def arrivalOf? : LogEvent → Option Kind
  | podAdded _ => some .pod
  | nodeListed _ | nodeAdded _ => some .node
  | sliceAdded _ => some .endpointSlice
  | _ => none

/-- The kind whose first listing a line says is complete. -/
def firstListingOf? : LogEvent → Option Kind
  | firstListing k _ => some k
  | _ => none

/-- The kind of which a line says either. -/
def announced? (event : LogEvent) : Option Kind := event.arrivalOf? <|> event.firstListingOf?

end LogEvent

theorem filter_announced_eq_nil_iff {k : Kind} {lines : List LogEvent} :
    lines.filter (·.announced? = some k) = [] ↔ ∀ event ∈ lines, event.announced? ≠ some k := by
  simp [List.filter_eq_nil_iff]

theorem filter_arrivalOf_filter_announced (k : Kind) (lines : List LogEvent) :
    (lines.filter (·.announced? = some k)).filter (·.arrivalOf? = some k)
      = lines.filter (·.arrivalOf? = some k) := by
  rw [List.filter_filter]
  refine List.filter_congr fun event _ => ?_
  cases event <;> simp [LogEvent.announced?, LogEvent.arrivalOf?]

theorem filter_firstListingOf_filter_announced (k : Kind) (lines : List LogEvent) :
    (lines.filter (·.announced? = some k)).filter (·.firstListingOf? = some k)
      = lines.filter (·.firstListingOf? = some k) := by
  rw [List.filter_filter]
  refine List.filter_congr fun event _ => ?_
  cases event <;> simp [LogEvent.announced?, LogEvent.arrivalOf?, LogEvent.firstListingOf?]

/-- The line about an arrival says that an object of its kind has become known, and no more. -/
theorem Arrival.of_line? {a : Arrival} {event : LogEvent} (h : a.line? = some event) :
    event.arrivalOf? = some a.what.kind ∧ event.firstListingOf? = none := by
  obtain ⟨what, initial⟩ := a
  cases what <;> cases initial <;> cases h <;> exact ⟨rfl, rfl⟩

/-- The arrival that a notice tells of. -/
def Notice.arrival? : Notice → Option Arrival
  | .added what initial => some ⟨what, initial⟩
  | .updated _ _ | .deleted _ => none

/-- Of a notice that tells of no arrival no such line is logged. -/
theorem Notice.Logs.line_eq {n : Notice} {event : LogEvent} (h : n.Logs event) {k : Kind}
    (hline : event.announced? = some k) : n.arrival?.bind Arrival.line? = some event := by
  cases h with
  | podAdded | nodeListed | nodeAdded | sliceAdded => rfl
  | _ => cases hline

/-- A notice that such a line is logged of is about an object of the kind. -/
theorem Notice.Logs.isOfKind {n : Notice} {event : LogEvent} (h : n.Logs event) {k : Kind}
    (hline : event.announced? = some k) : n.IsOfKind k := by
  cases h with
  | podAdded | nodeListed | nodeAdded | sliceAdded => exact Option.some.inj hline
  | _ => cases hline

/-! ## Directories -/

namespace Directory

variable (d : Directory) {k : Kind}

theorem filter_announced_takeover (t : AddressTable) (r : PodRecord) :
    (t.takeover r).filter (·.announced? = some k) = [] := by
  refine filter_announced_eq_nil_iff.mpr fun event hmem hline => ?_
  obtain ⟨address, previous, current, rfl⟩ := AddressTable.exists_of_mem_takeover hmem
  cases hline

/-- **What a directory logs of an arrival is its line**, and of other changes no such line. -/
theorem filter_announced_apply {n : Notice} (hn : n.IsOfKind k) :
    (d.apply n).2.filter (·.announced? = some k) = (n.arrival?.bind Arrival.line?).toList := by
  cases n with
  | added what initial =>
    obtain rfl : what.kind = k := hn
    cases what with
    | pod r =>
      show ((if initial then [] else [LogEvent.podAdded r]) ++
        (d.vacated r).takeover r).filter _ = _
      rw [List.filter_append, filter_announced_takeover, List.append_nil]
      cases initial <;> rfl
    | node r => cases initial <;> rfl
    | slice s => rfl
  | updated | deleted =>
    refine filter_announced_eq_nil_iff.mpr fun event hmem hline => ?_
    cases (logs_of_mem_apply hmem).line_eq hline

/-- Where no effect can log such a line, none is logged. -/
theorem filter_announced_performAll_eq_nil {effects : List Effect}
    (h : ∀ effect ∈ effects, ∀ event, effect.Logs event → event.announced? ≠ some k) :
    (d.performAll effects).2.filter (·.announced? = some k) = [] := by
  refine filter_announced_eq_nil_iff.mpr fun event hmem => ?_
  obtain ⟨effect, heffect, hlogs⟩ := logs_of_mem_performAll hmem
  exact h effect heffect event hlogs

end Directory

/-! ## Trackers -/

/-- Whether an event completes a listing. -/
def WatchEvent.isListingDone {k : Kind} : WatchEvent k → Bool
  | .listingDone => true
  | _ => false

theorem WatchEvent.isListingDone_of_object? {k : Kind} {e : WatchEvent k} {o : k.Object}
    (h : e.object? = some o) : e.isListingDone = false := by
  cases e with
  | listingDone => cases h
  | listingStarted | listed | changed | deleted => rfl

namespace Tracker

variable {k : Kind}

/-- What is observed of an object that is not known. -/
def newcomer? (t : Tracker k) (o : k.Object) : Option Observation :=
  match k.identify o with
  | .ok (ref, record) => if ref ∈ t.known then none else some (.ofRecord k record)
  | .error _ => none

/-- **What becomes known by an event**, if anything does; `first` says that no listing has been
completed yet. -/
def arrival? (t : Tracker k) (first : Bool) : WatchEvent k → Option Arrival
  | .listed o => (t.newcomer? o).map (⟨·, first⟩)
  | .changed o => (t.newcomer? o).map (⟨·, false⟩)
  | .listingStarted | .listingDone | .deleted _ => none

section Newcomers

variable (t : Tracker k) {o : k.Object}

theorem newcomer?_of_identify {ref : ObjectRef} {record : k.Record}
    (ho : k.identify o = .ok (ref, record)) :
    t.newcomer? o = if ref ∈ t.known then none else some (.ofRecord k record) := by
  unfold newcomer?
  rw [ho]

theorem newcomer?_of_defective {defect : Defect} (ho : k.identify o = .error defect) :
    t.newcomer? o = none := by
  unfold newcomer?
  rw [ho]

/-- Nothing becomes known by an event about an object that cannot be identified. -/
theorem arrival?_of_defective (first : Bool) {e : WatchEvent k} {defect : Defect}
    (he : e.object? = some o) (ho : k.identify o = .error defect) :
    t.arrival? first e = none := by
  cases e with
  | listingStarted | listingDone | deleted => rfl
  | listed | changed =>
    cases he
    exact congrArg (Option.map _) (t.newcomer?_of_defective ho)

theorem newcomer?_eq_some_iff {what : Observation} :
    t.newcomer? o = some what ↔ ∃ ref record, k.identify o = .ok (ref, record) ∧
      ref ∉ t.known ∧ what = .ofRecord k record := by
  cases ho : k.identify o with
  | error defect => simp [t.newcomer?_of_defective ho]
  | ok found =>
    obtain ⟨ref, record⟩ := found
    rw [t.newcomer?_of_identify ho]
    by_cases hmem : ref ∈ t.known <;> simp [hmem, eq_comm]

theorem kind_of_arrival? {first : Bool} {e : WatchEvent k} {a : Arrival}
    (h : t.arrival? first e = some a) : a.what.kind = k := by
  cases e with
  | listed | changed =>
    obtain ⟨what, hwhat, rfl⟩ := Option.map_eq_some_iff.mp h
    obtain ⟨ref, record, -, -, rfl⟩ := t.newcomer?_eq_some_iff.mp hwhat
    exact Observation.kind_ofRecord k record
  | listingStarted | listingDone | deleted => cases h

/-- An object that is delivered is passed on as an arrival if it is a newcomer. -/
theorem arrival?_noticeOf {ref : ObjectRef} {record : k.Record}
    (ho : k.identify o = .ok (ref, record)) (initial : Bool) :
    (t.noticeOf ref record initial).arrival? = (t.newcomer? o).map (⟨·, initial⟩) := by
  rw [t.newcomer?_of_identify ho]
  unfold noticeOf
  by_cases hmem : ref ∈ t.known
  · rw [if_pos hmem, ExtTreeMap.getElem?_eq_some_getElem hmem]
    rfl
  · rw [if_neg hmem, ExtTreeMap.getElem?_eq_none hmem]
    rfl

/-- What is logged of a delivery is the line of the arrival, if it is one. -/
theorem filter_announced_deliver (d : Directory) {ref : ObjectRef} {record : k.Record}
    (ho : k.identify o = .ok (ref, record)) (initial : Bool) :
    (d.performAll (t.deliver ref record initial).2).2.filter (·.announced? = some k)
      = (((t.newcomer? o).map (⟨·, initial⟩)).bind Arrival.line?).toList := by
  show ((d.apply (t.noticeOf ref record initial)).2 ++ []).filter _ = _
  rw [List.append_nil, d.filter_announced_apply (t.isOfKind_noticeOf ref record initial),
    t.arrival?_noticeOf ho]

/-- What is logged when a listing is done is that it was the first one, if it was. -/
theorem filter_announced_finishListing (d : Directory) (gone : List ObjectRef) :
    (d.performAll (t.finishListing gone).2).2.filter (·.announced? = some k)
      = if t.listedOnce then [] else
          [.firstListing k (t.finishListing gone).1.known.size] := by
  have hforget : ∀ (d : Directory) (t : Tracker k),
      (d.performAll (t.forget gone).2).2.filter (·.announced? = some k) = [] := by
    intro d t
    refine d.filter_announced_performAll_eq_nil fun effect heffect event hlogs hline => ?_
    obtain ⟨ref, rfl | ⟨last, rfl⟩⟩ := exists_of_mem_forget heffect
    · cases hlogs
      cases hline
    · cases hlogs with
      | notify _ hlogs => cases hlogs.line_eq hline
  have hmark : ∀ d : Directory,
      (d.performAll [.markListed k]).2.filter (·.announced? = some k) = [] := by
    intro d
    refine d.filter_announced_performAll_eq_nil fun effect heffect event hlogs hline => ?_
    obtain rfl := List.mem_singleton.mp heffect
    cases hlogs
    cases hline
  have hsplit : ∀ (d : Directory) (first second : List Effect), (d.performAll (first ++ second)).2
      = (d.performAll first).2 ++ ((d.performAll first).1.performAll second).2 :=
    fun d first second => congrArg Prod.snd (Steps.run_append Directory.perform d first second)
  unfold finishListing
  dsimp only
  rw [hsplit, hsplit, List.filter_append, List.filter_append, hforget, hmark, List.append_nil,
    List.nil_append]
  cases t.listedOnce with
  | true => rfl
  | false =>
    show [LogEvent.firstListing k _].filter _ = _
    simp [LogEvent.announced?, LogEvent.arrivalOf?, LogEvent.firstListingOf?]

end Newcomers

variable {t t' : Tracker k} {e : WatchEvent k} {effects : List Effect}

/-- A listing that is completed is remembered. -/
theorem Outcome.listedOnce_eq (h : Outcome t e t' effects) :
    t'.listedOnce = (t.listedOnce || e.isListingDone) := by
  cases h with
  | started | listed | changed | deleted => exact (Bool.or_false _).symm
  | dropped he => rw [WatchEvent.isListingDone_of_object? he, Bool.or_false]
  | done => exact (Bool.or_true _).symm

/-- **What is logged of an arrival, and of the end of the first listing.** -/
theorem Outcome.filter_announced (h : Outcome t e t' effects) (d : Directory) :
    (d.performAll effects).2.filter (·.announced? = some k)
      = ((t.arrival? (!t.listedOnce) e).bind Arrival.line?).toList ++
        if !t.listedOnce && e.isListingDone then [.firstListing k t'.known.size] else [] := by
  have hother (lines : List LogEvent) (he : e.isListingDone = false) :
      (lines ++ if !t.listedOnce && e.isListingDone then [.firstListing k t'.known.size] else [])
        = lines := by
    rw [he, Bool.and_false]
    exact List.append_nil lines
  cases h with
  | started =>
    rw [hother _ rfl]
    rfl
  | listed ho =>
    rw [hother _ rfl, filter_announced_deliver _ d ho]
    rfl
  | changed ho =>
    rw [hother _ rfl, filter_announced_deliver _ d ho]
    rfl
  | @deleted o ref record ho =>
    have hn : Notice.IsOfKind k (.deleted (.ofRecord k record)) :=
      Observation.kind_ofRecord k record
    show ((d.apply (.deleted (.ofRecord k record))).2 ++ []).filter _ = _
    rw [hother _ rfl, List.append_nil, d.filter_announced_apply hn]
    rfl
  | @dropped _ o defect he ho =>
    rw [hother _ (WatchEvent.isListingDone_of_object? he), arrival?_of_defective t _ he ho]
    rfl
  | done =>
    rw [filter_announced_finishListing]
    cases t.listedOnce <;> rfl

/-- **An object becomes known by being listed or changed**, and by nothing else. -/
theorem Outcome.becomes_known_iff (h : Outcome t e t' effects) {ref : ObjectRef}
    {record : k.Record} (hnew : ref ∉ t.known) :
    t'.known[ref]? = some record ↔
      ∃ o, (e = .listed o ∨ e = .changed o) ∧ k.identify o = .ok (ref, record) := by
  have hnone : t.known[ref]? = none := ExtTreeMap.getElem?_eq_none hnew
  -- where nothing is delivered, nothing that was not known is known afterwards
  have hother (hleft : t'.known[ref]? = none)
      (he : ∀ o, e = .listed o ∨ e = .changed o → k.identify o ≠ .ok (ref, record)) :
      t'.known[ref]? = some record ↔
        ∃ o, (e = .listed o ∨ e = .changed o) ∧ k.identify o = .ok (ref, record) := by
    rw [hleft]
    exact ⟨nofun, fun ⟨o, hevent, ho⟩ => absurd ho (he o hevent)⟩
  have hdelivered {o : k.Object} {ref' : ObjectRef} {record' : k.Record}
      (ho : k.identify o = .ok (ref', record')) :
      (if ref = ref' then some record' else t.known[ref]?) = some record ↔
        k.identify o = .ok (ref, record) := by
    rw [hnone, ho]
    by_cases hr : ref = ref' <;> simp [hr, eq_comm]
  cases h with
  | started => exact hother hnone (by simp)
  | @listed o ref' record' ho =>
    rw [getElem?_known_deliver]
    exact (hdelivered ho).trans (by simp)
  | @changed o ref' record' ho =>
    rw [getElem?_known_deliver]
    exact (hdelivered ho).trans (by simp)
  | @deleted o ref' record' ho =>
    refine hother ?_ (by simp)
    rw [getElem?_known_delete, hnone]
    exact ite_self none
  | @dropped _ o defect he ho =>
    refine hother hnone fun o' hevent ho' => ?_
    obtain rfl : o' = o := by
      rcases hevent with rfl | rfl <;> exact Option.some.inj he
    exact Kind.identify_ne_error ho' defect ho
  | @done gone hgone =>
    refine hother ?_ (by simp)
    rw [getElem?_known_finishListing, hnone]
    exact ite_self none

/-- **An arrival is an object that becomes known**, and an initial one is listed before any listing
has been completed. -/
theorem Outcome.arrival?_eq_some_iff (h : Outcome t e t' effects) {first initial : Bool}
    {what : Observation} :
    t.arrival? first e = some ⟨what, initial⟩ ↔
      ∃ ref record, ref ∉ t.known ∧ t'.known[ref]? = some record ∧ what = .ofRecord k record ∧
        (initial = true ↔ first = true ∧ ∃ o, e = .listed o) := by
  have hknown : ∀ ref record, (ref ∉ t.known ∧ t'.known[ref]? = some record) ↔
      (ref ∉ t.known ∧ ∃ o, (e = .listed o ∨ e = .changed o) ∧ k.identify o = .ok (ref, record)) :=
    fun ref record => and_congr_right fun hnew => h.becomes_known_iff hnew
  have hmap : ∀ (o : k.Object) (b : Bool),
      (t.newcomer? o).map (Arrival.mk · b) = some ⟨what, initial⟩ ↔
      ∃ ref record, ref ∉ t.known ∧ k.identify o = .ok (ref, record) ∧ what = .ofRecord k record ∧
        b = initial := by
    intro o b
    rw [Option.map_eq_some_iff]
    simp only [newcomer?_eq_some_iff, Arrival.mk.injEq]
    constructor
    · rintro ⟨_, ⟨ref, record, ho, hnew, rfl⟩, rfl, hb⟩
      exact ⟨ref, record, hnew, ho, rfl, hb⟩
    · rintro ⟨ref, record, hnew, ho, rfl, hb⟩
      exact ⟨_, ⟨ref, record, ho, hnew, rfl⟩, rfl, hb⟩
  simp only [← and_assoc, hknown]
  cases e with
  | listed o =>
    refine (hmap o first).trans (exists₂_congr fun ref record => ?_)
    cases first <;> cases initial <;> simp [and_assoc]
  | changed o =>
    refine (hmap o false).trans (exists₂_congr fun ref record => ?_)
    cases initial <;> simp [and_assoc]
  | listingStarted | listingDone | deleted => simp [arrival?]

end Tracker

end PodDirectory
