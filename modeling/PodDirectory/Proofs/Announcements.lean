import PodDirectory.Proofs.Arrivals
import PodDirectory.Proofs.MonitorStages

/-!
# What counts as initial

The first listing of a kind is over when a listing is completed for the first time, however many
have been started and broken off before. An object that becomes known by being listed until then is
initial, and every other one is new: one that is listed later, and also one that has only changed.

`Monitor.Announced` says which announcements a history has, in terms of the history itself: which
objects become known at which event, and which listings were completed earlier. The tracker goes by
a flag, which stands for these listings (`Monitor.listedOnce_of_path`).
-/

namespace PodDirectory

open Std (ExtTreeMap)

/-! ## Stages -/

/-- Notices are told apart by their kinds. -/
instance (k : Kind) : (n : Notice) → Decidable (n.IsOfKind k)
  | .added what _ | .deleted what => inferInstanceAs (Decidable (what.kind = k))
  | .updated old new => inferInstanceAs (Decidable (old.kind = k ∧ new.kind = k))

/-- **Whether a step leaves a kind to its tracker**: it neither tells of objects of the kind itself
nor replaces the tracker. -/
def MonitorStep.SparesKind (k : Kind) : MonitorStep → Prop
  | .notify n => ¬ n.IsOfKind k
  | .restart j => j ≠ k
  | _ => True

instance (k : Kind) : (s : MonitorStep) → Decidable (s.SparesKind k)
  | .notify n => inferInstanceAs (Decidable (¬ n.IsOfKind k))
  | .restart j => inferInstanceAs (Decidable (j ≠ k))
  | .mark _ | .watch _ _ | .wait _ => inferInstanceAs (Decidable True)

theorem MonitorStep.SparesKind.ne_restart {k : Kind} {s : MonitorStep} (h : s.SparesKind k) :
    s ≠ .restart k := by
  rintro rfl
  exact h rfl

/-- An announcement is about its kind. -/
theorem LogEvent.kind?_of_announced? {k : Kind} {event : LogEvent} (h : event.announced? = some k) :
    event.kind? = some k := by
  cases event <;> first | exact h | cases h

namespace Monitor

variable {k : Kind} {m m' : Monitor}

/-- Other steps announce nothing about the kind. -/
theorem Move.Leads.filter_announced_of_other {move : Move} (h : move.Leads m m')
    (hspare : move.step.SparesKind k) (hs : move.step.event? k = none) :
    move.logged.filter (·.announced? = some k) = [] := by
  refine filter_announced_eq_nil_iff.mpr fun event hmem hline => ?_
  obtain ⟨step, found, logged⟩ := move
  cases h.occasion hmem with
  | notify hlogs => exact hspare (hlogs.isOfKind hline)
  | watch =>
    obtain ⟨t, effects, takes, -, rfl, -⟩ := h.watched
    have hkind := Directory.kind?_of_mem_performAll takes.outcome.belongsTo hmem
    rw [LogEvent.kind?_of_announced? hline] at hkind
    obtain rfl := Option.some.inj hkind
    simp at hs
  | mark | synced | failed => cases hline

/-- An event of a kind has no announcements about other kinds. -/
theorem Move.Leads.announced?_eq_none {move : Move} (h : move.Leads m m') {e : WatchEvent k}
    (he : move.step.event? k = some e) (hnone : ∀ event ∈ move.logged, event.announced? ≠ some k) :
    ∀ event ∈ move.logged, event.announced? = none := by
  intro event hmem
  obtain ⟨effects, takes, hlogged⟩ := h.exists_takes he
  have hkind := Directory.kind?_of_mem_performAll takes.outcome.belongsTo (hlogged ▸ hmem)
  cases hline : event.announced? with
  | none => rfl
  | some j =>
    rw [LogEvent.kind?_of_announced? hline] at hkind
    exact absurd (hkind ▸ hline) (hnone event hmem)

namespace Stage

/-- Whether a listing of a kind is completed at a stage. -/
def completes (k : Kind) (s : Stage) : Bool := (s.event? k).any WatchEvent.isListingDone

/-- What becomes known of a kind at a stage; `first` says that no listing of the kind has been
completed before. -/
def arrival? (k : Kind) (first : Bool) (s : Stage) : Option Arrival :=
  (s.event? k).bind ((s.before.tracker k).arrival? first)

/-- **What is announced of a kind at a stage**: an arrival, or that the first listing is complete,
with the number of objects that are known then. -/
def announcements (k : Kind) (first : Bool) (s : Stage) : List LogEvent :=
  ((s.arrival? k first).bind Arrival.line?).toList ++
    if first && s.completes k then [.firstListing k (s.after.tracker k).known.size] else []

variable {s : Stage}

theorem completes_iff : s.completes k = true ↔ s.event? k = some .listingDone := by
  unfold completes
  cases s.event? k with
  | none => simp
  | some e => cases e <;> simp [WatchEvent.isListingDone]

theorem of_line_of_arrival? {first : Bool} {event : LogEvent}
    (h : (s.arrival? k first).bind Arrival.line? = some event) :
    event.arrivalOf? = some k ∧ event.firstListingOf? = none := by
  obtain ⟨a, ha, hline⟩ := Option.bind_eq_some_iff.mp h
  obtain ⟨e, -, harrival⟩ := Option.bind_eq_some_iff.mp ha
  rw [← Tracker.kind_of_arrival? _ harrival]
  exact Arrival.of_line? hline

/-- Of the announcements at a stage, one is about an arrival at most. -/
theorem filter_arrivalOf_announcements (s : Stage) (k : Kind) (first : Bool) :
    (s.announcements k first).filter (·.arrivalOf? = some k)
      = ((s.arrival? k first).bind Arrival.line?).toList := by
  have hsize : ∀ n, (LogEvent.firstListing k n).arrivalOf? ≠ some k := fun _ => nofun
  unfold announcements
  rw [List.filter_append]
  cases hline : (s.arrival? k first).bind Arrival.line? with
  | none => cases first && s.completes k <;> simp [hsize]
  | some event =>
    have hevent := (of_line_of_arrival? hline).1
    cases first && s.completes k <;> simp [hsize, hevent]

/-- Of the announcements at a stage, one is about the first listing at most. -/
theorem filter_firstListingOf_announcements (s : Stage) (k : Kind) (first : Bool) :
    (s.announcements k first).filter (·.firstListingOf? = some k)
      = if first && s.completes k then [.firstListing k (s.after.tracker k).known.size]
        else [] := by
  have hsize : ∀ n, (LogEvent.firstListing k n).firstListingOf? = some k := fun _ => rfl
  unfold announcements
  rw [List.filter_append]
  cases hline : (s.arrival? k first).bind Arrival.line? with
  | none => cases first && s.completes k <;> simp [hsize]
  | some event =>
    have hevent := (of_line_of_arrival? hline).2
    cases first && s.completes k <;> simp [hsize, hevent]

/-- Nothing is announced when an object is listed that is known already. -/
theorem announcements_of_known (first : Bool) {o : k.Object}
    (hlisted : s.event? k = some (.listed o)) {ref : ObjectRef} {record : k.Record}
    (ho : k.identify o = .ok (ref, record))
    (hknown : ref ∈ (s.before.tracker k).known) : s.announcements k first = [] := by
  have hold : (s.before.tracker k).newcomer? o = none := by
    rw [Tracker.newcomer?_of_identify _ ho, if_pos hknown]
  unfold announcements arrival? completes
  rw [hlisted]
  simp [Tracker.arrival?, hold, WatchEvent.isListingDone]

theorem not_any_completes_iff {stages : List Stage} :
    (!stages.any (·.completes k)) = true ↔ ∀ s ∈ stages, s.event? k ≠ some .listingDone := by
  rw [Bool.not_eq_true', List.any_eq_false]
  exact forall₂_congr fun s _ => not_congr completes_iff

section Leads

variable (leads : s.move.Leads s.before s.after) (hspare : s.move.step.SparesKind k)
include leads hspare

/-- The tracker remembers whether a listing has been completed. -/
theorem listedOnce_eq :
    (s.after.tracker k).listedOnce = ((s.before.tracker k).listedOnce || s.completes k) := by
  unfold completes
  cases he : s.event? k with
  | none =>
    rw [leads.takes.tracker_eq hspare.ne_restart he]
    exact (Bool.or_false _).symm
  | some e =>
    obtain ⟨effects, takes, -⟩ := leads.exists_takes he
    exact takes.outcome.listedOnce_eq

/-- **An arrival at a stage is an object that becomes known at it.** -/
theorem arrival?_eq_some_iff {first initial : Bool} {what : Observation} :
    s.arrival? k first = some ⟨what, initial⟩ ↔
      ∃ ref record, ref ∉ (s.before.tracker k).known ∧
        (s.after.tracker k).known[ref]? = some record ∧ what = .ofRecord k record ∧
        (initial = true ↔ first = true ∧ ∃ o, s.event? k = some (.listed o)) := by
  unfold arrival?
  cases he : s.event? k with
  | none =>
    rw [leads.takes.tracker_eq hspare.ne_restart he]
    constructor
    · exact nofun
    · rintro ⟨ref, record, hnew, hknown, -⟩
      exact absurd (ExtTreeMap.mem_iff_isSome_getElem?.mpr (by rw [hknown]; rfl)) hnew
  | some e =>
    obtain ⟨effects, takes, -⟩ := leads.exists_takes he
    simpa using takes.outcome.arrival?_eq_some_iff

/-- **A stage logs what is announced at it.** -/
theorem filter_announced :
    s.move.logged.filter (·.announced? = some k)
      = s.announcements k (!(s.before.tracker k).listedOnce) := by
  unfold announcements arrival? completes
  cases he : s.event? k with
  | none =>
    rw [leads.filter_announced_of_other hspare he, Option.any_none, Bool.and_false]
    rfl
  | some e =>
    obtain ⟨effects, takes, hlogged⟩ := leads.exists_takes he
    rw [hlogged]
    exact takes.outcome.filter_announced s.before.directory

end Leads

end Stage

/-! ## Histories -/

/-- **The objects of a kind that become known in a history**, in order; `first` says that no
listing of the kind has been completed before. -/
def arrivals (k : Kind) (first : Bool) : List Stage → List Arrival
  | [] => []
  | s :: stages => (s.arrival? k first).toList ++ arrivals k (first && !s.completes k) stages

section Histories

variable {stages : List Stage} (path : Steps.Path Stage.Leads m stages m')
  (hspare : ∀ s ∈ stepsOf stages, s.SparesKind k)
include path hspare

theorem listedOnce_of_path : (m'.tracker k).listedOnce
    = ((m.tracker k).listedOnce || stages.any (·.completes k)) := by
  induction path with
  | nil => exact (Bool.or_false _).symm
  | @cons m next last stage stages first rest ih =>
    obtain ⟨rfl, rfl, leads⟩ := first
    rw [ih fun s hs => hspare s (List.mem_cons_of_mem _ hs),
      Stage.listedOnce_eq leads (hspare _ List.mem_cons_self), List.any_cons, Bool.or_assoc]

/-- **What is logged of objects that become known**, over a whole history. -/
theorem filter_arrivalOf_logOf :
    (logOf stages).filter (·.arrivalOf? = some k)
      = (arrivals k (!(m.tracker k).listedOnce) stages).filterMap Arrival.line? := by
  induction path with
  | nil => rfl
  | @cons m next last stage stages first rest ih =>
    obtain ⟨rfl, rfl, leads⟩ := first
    have hstage : stage.move.step.SparesKind k := hspare _ List.mem_cons_self
    rw [logOf_cons, List.filter_append, ih fun s hs => hspare s (List.mem_cons_of_mem _ hs),
      ← filter_arrivalOf_filter_announced, Stage.filter_announced leads hstage,
      Stage.filter_arrivalOf_announcements, Stage.listedOnce_eq leads hstage, arrivals,
      List.filterMap_append, Bool.not_or]
    congr 1
    cases stage.arrival? k _ with
    | none => rfl
    | some a => cases ha : a.line? <;> simp [ha]

/-- **The first listing is said to be complete once**, when a listing is completed for the first
time. -/
theorem filter_firstListingOf_logOf :
    (logOf stages).filter (·.firstListingOf? = some k)
      = if (m.tracker k).listedOnce then [] else
          ((stages.find? (·.completes k)).map fun s =>
            LogEvent.firstListing k (s.after.tracker k).known.size).toList := by
  induction path with
  | nil => split <;> rfl
  | @cons m next last stage stages first rest ih =>
    obtain ⟨rfl, rfl, leads⟩ := first
    have hstage : stage.move.step.SparesKind k := hspare _ List.mem_cons_self
    rw [logOf_cons, List.filter_append, ih fun s hs => hspare s (List.mem_cons_of_mem _ hs),
      ← filter_firstListingOf_filter_announced, Stage.filter_announced leads hstage,
      Stage.filter_firstListingOf_announcements, Stage.listedOnce_eq leads hstage,
      List.find?_cons]
    cases (stage.before.tracker k).listedOnce <;> cases stage.completes k <;> rfl

end Histories

/-- **What is announced of a kind in a history** in which its tracker starts from nothing and nobody
else tells of the kind. -/
structure Announced (k : Kind) (stages : List Stage) : Prop where
  /-- At every stage its announcements are logged and no others. What counts is whether a listing of
  the kind has been completed earlier. -/
  at_stage {earlier later : List Stage} {stage : Stage}
    (hstages : stages = earlier ++ stage :: later) :
    stage.move.logged.filter (·.announced? = some k)
      = stage.announcements k (!earlier.any (·.completes k))
  /-- The first listing is said to be complete when a listing is completed for the first time, with
  the number of objects that are known then, and never else. -/
  first_listing : (logOf stages).filter (·.firstListingOf? = some k)
    = ((stages.find? (·.completes k)).map fun s =>
        LogEvent.firstListing k (s.after.tracker k).known.size).toList
  /-- What is known when a listing is completed is what was known before, without the objects that
  the listing has missed. -/
  counted {stage : Stage} (hmem : stage ∈ stages) (hdone : stage.completes k = true)
    (ref : ObjectRef) : ref ∈ (stage.after.tracker k).known ↔
      ref ∈ (stage.before.tracker k).known ∧ ¬ (stage.before.tracker k).Misses ref
  /-- Over the whole history, what is logged of objects that become known are the lines of the
  arrivals, in their order. -/
  arrivals : (logOf stages).filter (·.arrivalOf? = some k)
    = (arrivals k true stages).filterMap Arrival.line?
  /-- An arrival is an object that becomes known, and it is initial exactly if it is listed while no
  listing has been completed. -/
  arrival_iff {earlier later : List Stage} {stage : Stage}
    (hstages : stages = earlier ++ stage :: later) {what : Observation} {initial : Bool} :
    stage.arrival? k (!earlier.any (·.completes k)) = some ⟨what, initial⟩ ↔
      ∃ ref record, ref ∉ (stage.before.tracker k).known ∧
        (stage.after.tracker k).known[ref]? = some record ∧ what = .ofRecord k record ∧
        (initial = true ↔ (∃ o, stage.event? k = some (.listed o)) ∧
          ∀ s ∈ earlier, s.event? k ≠ some .listingDone)
  /-- When an object is listed that is known already, nothing is announced. -/
  listed_again {stage : Stage} (hmem : stage ∈ stages) {o : k.Object}
    (hlisted : stage.event? k = some (.listed o)) {ref : ObjectRef} {record : k.Record}
    (ho : k.identify o = .ok (ref, record)) (hknown : ref ∈ (stage.before.tracker k).known) :
    ∀ event ∈ stage.move.logged, event.announced? = none

section Announced

variable {stages : List Stage} (path : Steps.Path Stage.Leads m stages m')
  (hnew : m.tracker k = {}) (hspare : ∀ s ∈ stepsOf stages, s.SparesKind k)
include path hnew hspare

/-- At every stage of such a history, the tracker remembers whether a listing has been completed
earlier. -/
theorem listedOnce_of_stage {earlier later : List Stage} {stage : Stage}
    (hstages : stages = earlier ++ stage :: later) :
    stage.move.Leads stage.before stage.after ∧ stage.move.step.SparesKind k ∧
      (stage.before.tracker k).listedOnce = earlier.any (·.completes k) := by
  subst hstages
  obtain ⟨first, leads, -⟩ := stage_of_path path
  have hsteps : stepsOf (earlier ++ stage :: later)
      = stepsOf earlier ++ stage.move.step :: stepsOf later := List.map_append
  rw [hsteps] at hspare
  have hearlier : ∀ s ∈ stepsOf earlier, s.SparesKind k := fun s hs =>
    hspare s (List.mem_append_left _ hs)
  refine ⟨leads, hspare _ (List.mem_append_right _ List.mem_cons_self), ?_⟩
  rw [listedOnce_of_path first hearlier, hnew]
  exact Bool.false_or _

/-- **What is announced of a kind in a history is told by the events of the kind**, if its tracker
starts from nothing and nobody else tells of the kind. -/
theorem announced_of_path : Announced k stages where
  at_stage hstages := by
    obtain ⟨leads, hstage, honce⟩ := listedOnce_of_stage path hnew hspare hstages
    rw [Stage.filter_announced leads hstage, honce]
  first_listing := by
    rw [filter_firstListingOf_logOf path hspare, hnew]
    rfl
  counted hmem hdone :=
    ((leads_of_mem path hmem).listingDone (Stage.completes_iff.mp hdone)).1
  arrivals := by
    rw [filter_arrivalOf_logOf path hspare, hnew]
    rfl
  arrival_iff hstages _ _ := by
    obtain ⟨leads, hstage, -⟩ := listedOnce_of_stage path hnew hspare hstages
    rw [Stage.arrival?_eq_some_iff leads hstage, Stage.not_any_completes_iff]
    simp only [and_comm (b := ∃ o, _)]
  listed_again hmem _ hlisted _ _ ho hknown := by
    obtain ⟨earlier, later, hstages⟩ := List.append_of_mem hmem
    obtain ⟨leads, hstage, -⟩ := listedOnce_of_stage path hnew hspare hstages
    exact leads.announced?_eq_none hlisted <| filter_announced_eq_nil_iff.mp <|
      (Stage.filter_announced leads hstage).trans (Stage.announcements_of_known _ hlisted ho hknown)

end Announced

/-- The first listing of pods is broken off, and during the second one, which misses it, a pod is
said to have changed. Another one is deleted and delivered again, and later two are listed without
the start of a listing, one of them known. -/
theorem announced_of_aborted_listing :
    let pod (name : String) : Pod := { metadata := { name := some name, ns := some "default" } }
    let record (name : String) : PodRecord := { key := ⟨name, "default"⟩, snapshot := pod name }
    let steps : List MonitorStep := [.watch .pod .listingStarted, .watch .pod (.listed (pod "a")),
      .watch .pod .listingStarted, .watch .pod (.changed (pod "b")),
      .watch .pod (.deleted (pod "a")), .mark .pod, .watch .pod (.listed (pod "a")),
      .watch .pod .listingDone, .watch .pod (.listed (pod "a")), .watch .pod (.listed (pod "c")),
      .watch .pod .listingDone]
    let start : Monitor := { directory := .new Directory.defaultRequired false }
    Steps.Path Stage.Leads start (start.stagesOf steps) (start.run steps).1 ∧
      start.tracker .pod = {} ∧ (∀ s ∈ stepsOf (start.stagesOf steps), s.SparesKind .pod) ∧
      Announced .pod (start.stagesOf steps) ∧
      (logOf (start.stagesOf steps)).filter (·.announced? = some .pod)
        = [.podAdded (record "b"), .firstListing .pod 1, .podAdded (record "c")] := by
  intro pod record steps start
  have path := start.path_stagesOf steps
  have hspare : ∀ s ∈ stepsOf (start.stagesOf steps), s.SparesKind .pod := by
    rw [stepsOf_stagesOf]
    decide
  exact ⟨path, rfl, hspare, announced_of_path path rfl hspare, by decide +kernel⟩

end Monitor

end PodDirectory
