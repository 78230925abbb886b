import PodDirectory.Proofs.Identities
import PodDirectory.Proofs.MonitorStages

/-!
# Objects that cannot be observed leave no trace

An event can be about an object that has no name, or about a pod without a namespace. Such an object
has no record, and its event is dropped. What a history comes to is what it would have come to if
these events had never been brought: `withoutDefective` takes them out, and the stages that are left
are a history by themselves, in which every event is taken by the same monitor as before and does
the same (`Monitor.invisible_of_path`). The log alone tells of them, by one line for each.

Listings are the case to think of. A listing remembers which objects it has seen until it is done,
and an object without a record is not among them. So it does not save a known object from being
deleted, even if that has its name.
-/

namespace PodDirectory

/-! ## Which events those are -/

/-- **What is wrong with the object of an event**, if it has one that cannot be observed. -/
def WatchEvent.defect? {k : Kind} (e : WatchEvent k) : Option Defect :=
  e.object?.bind fun o =>
    match k.observe o with
    | .ok _ => none
    | .error defect => some defect

theorem WatchEvent.defect?_eq_some_iff {k : Kind} {e : WatchEvent k} {defect : Defect} :
    e.defect? = some defect ↔ ∃ o, e.object? = some o ∧ k.identify o = .error defect := by
  unfold defect?
  rw [Option.bind_eq_some_iff]
  refine exists_congr fun o => and_congr_right fun _ => ?_
  rw [Kind.identify_eq_error_iff]
  cases k.observe o <;> simp

namespace Tracker

variable {k : Kind} {t t' : Tracker k} {e : WatchEvent k} {effects : List Effect}

/-- **Such an event changes nothing**, and all that is done about it is a line in the log. -/
theorem Outcome.of_defect (h : Outcome t e t' effects) {defect : Defect}
    (hd : e.defect? = some defect) :
    t' = t ∧ effects = [.log (.objectDropped k defect)] := by
  obtain ⟨o, hobject, ho⟩ := WatchEvent.defect?_eq_some_iff.mp hd
  exact h.of_defective hobject ho

/-- **Nothing else is logged as dropped.** -/
theorem Outcome.objectDropped_mem_iff (h : Outcome t e t' effects) {j : Kind} {defect : Defect} :
    .log (.objectDropped j defect) ∈ effects ↔ j = k ∧ e.defect? = some defect := by
  constructor
  · intro hmem
    cases h.causes hmem with
    | dropped hobject ho => exact ⟨rfl, WatchEvent.defect?_eq_some_iff.mpr ⟨_, hobject, ho⟩⟩
  · rintro ⟨rfl, hd⟩
    rw [(h.of_defect hd).2]
    exact List.mem_singleton_self _

end Tracker

/-- What is wrong with the object of the event that a step brings to the tracker of a kind. -/
def MonitorStep.defect? (k : Kind) (s : MonitorStep) : Option Defect :=
  (s.event? k).bind WatchEvent.defect?

namespace Monitor

/-! ## Moves -/

section Moves

variable {k : Kind} {m m' : Monitor} {move : Move} {defect : Defect}

/-- **A move whose object cannot be observed leaves the monitor as it is**, and logs one line. -/
theorem Move.Leads.of_defect (h : move.Leads m m') (hd : move.step.defect? k = some defect) :
    m' = m ∧ move.found = none ∧ move.logged = [.objectDropped k defect] := by
  obtain ⟨e, he, hdefect⟩ := Option.bind_eq_some_iff.mp hd
  obtain ⟨step, found, logged⟩ := move
  obtain rfl : step = .watch k e := MonitorStep.eq_watch_of_event? he
  obtain ⟨t, effects, takes, hfound, hlogged, rfl⟩ := h.watched
  obtain ⟨rfl, rfl⟩ := takes.outcome.of_defect hdefect
  refine ⟨?_, hfound, hlogged⟩
  cases k <;> rfl

/-- **No other move logs such a line.** -/
theorem Move.Leads.defect_of_objectDropped (h : move.Leads m m')
    (hmem : .objectDropped k defect ∈ move.logged) : move.step.defect? k = some defect := by
  obtain ⟨step, found, logged⟩ := move
  cases h.occasion hmem with
  | notify hlogs => cases hlogs
  | watch takes heffect hlogs =>
    cases hlogs with
    | log =>
      obtain ⟨rfl, hd⟩ := takes.outcome.objectDropped_mem_iff.mp heffect
      exact Option.bind_eq_some_iff.mpr ⟨_, MonitorStep.event?_watch_self _, hd⟩
    | notify _ hlogs => cases hlogs

/-- Such a step can always be taken, and this is what it comes to. -/
theorem Move.leads_of_defect (m : Monitor) {s : MonitorStep} (hd : s.defect? k = some defect) :
    Move.Leads m ⟨s, none, [.objectDropped k defect]⟩ m := by
  have hstep : Move.Leads m ⟨s, (m.step s).2.1, (m.step s).2.2⟩ (m.step s).1 := .step s
  obtain ⟨hm, hfound, hlogged⟩ := hstep.of_defect hd
  simp only at hfound hlogged
  rwa [hfound, hlogged, hm] at hstep

end Moves

/-! ## Histories -/

/-- **A history without the objects of a kind that cannot be observed.** -/
def withoutDefective (k : Kind) (stages : List Stage) : List Stage :=
  stages.filter fun stage => (stage.move.step.defect? k).isNone

/-- Whether a line says that an object of a kind was dropped. -/
def IsDropOf (k : Kind) : LogEvent → Bool
  | .objectDropped j _ => j = k
  | _ => false

section Histories

variable {k : Kind} {m m' : Monitor} {stages : List Stage}

/-- **The stages that are left are a history by themselves**, between the same monitors. -/
theorem path_withoutDefective (k : Kind) (path : Steps.Path Stage.Leads m stages m') :
    Steps.Path Stage.Leads m (withoutDefective k stages) m' := by
  induction path with
  | nil => exact .nil _
  | @cons m next last stage stages first rest ih =>
    unfold withoutDefective at ih ⊢
    cases hd : stage.move.step.defect? k with
    | none =>
      rw [List.filter_cons_of_pos (by simp [hd])]
      exact .cons first ih
    | some defect =>
      obtain ⟨rfl, rfl, leads⟩ := first
      rw [List.filter_cons_of_neg (by simp [hd])]
      rwa [(leads.of_defect hd).1] at ih

/-- Of the lines of a move, those that say that an object was dropped. -/
theorem Move.Leads.filter_isDropOf {move : Move} (h : move.Leads m m') (k : Kind) :
    move.logged.filter (IsDropOf k)
      = ((move.step.defect? k).map (LogEvent.objectDropped k)).toList := by
  cases hd : move.step.defect? k with
  | some defect => simp [(h.of_defect hd).2.2, IsDropOf]
  | none =>
    refine List.filter_eq_nil_iff.mpr fun event hmem hdrop => ?_
    cases event with
    | objectDropped j defect =>
      obtain rfl : j = k := of_decide_eq_true hdrop
      rw [h.defect_of_objectDropped hmem] at hd
      cases hd
    | _ => cases hdrop

/-- **There is one such line for each object that was dropped**, in the order of the events. -/
theorem filter_isDropOf_logOf (k : Kind) (path : Steps.Path Stage.Leads m stages m') :
    (logOf stages).filter (IsDropOf k)
      = stages.filterMap fun stage =>
          (stage.move.step.defect? k).map (LogEvent.objectDropped k) := by
  induction path with
  | nil => rfl
  | @cons m next last stage stages first rest ih =>
    rw [logOf_cons, List.filter_append, ih, first.leads.filter_isDropOf k]
    cases hd : stage.move.step.defect? k <;> simp [hd]

/-- **All other lines are those of the history that is left**, in the same order. -/
theorem filter_not_isDropOf_logOf (k : Kind) (path : Steps.Path Stage.Leads m stages m') :
    (logOf stages).filter (fun event => !IsDropOf k event)
      = logOf (withoutDefective k stages) := by
  induction path with
  | nil => rfl
  | @cons m next last stage stages first rest ih =>
    unfold withoutDefective at ih ⊢
    rw [logOf_cons, List.filter_append, ih]
    have hdrops := first.leads.filter_isDropOf k
    cases hd : stage.move.step.defect? k with
    | none =>
      rw [hd] at hdrops
      rw [List.filter_cons_of_pos (by simp [hd]), logOf_cons]
      congr 1
      refine List.filter_eq_self.mpr fun event hmem => ?_
      simpa using List.filter_eq_nil_iff.mp hdrops event hmem
    | some defect =>
      rw [List.filter_cons_of_neg (by simp [hd]), (first.leads.of_defect hd).2.2]
      simp [IsDropOf]

/-- **Every history without these events is what is left of one with them.** -/
theorem exists_of_withoutDefective (k : Kind) (steps : List MonitorStep) {quiet : List Stage}
    (path : Steps.Path Stage.Leads m quiet m')
    (hquiet : stepsOf quiet = steps.filter fun s => (s.defect? k).isNone) :
    ∃ stages, Steps.Path Stage.Leads m stages m' ∧ stepsOf stages = steps ∧
      withoutDefective k stages = quiet := by
  induction steps generalizing m quiet with
  | nil =>
    obtain rfl : quiet = [] := List.map_eq_nil_iff.mp hquiet
    exact ⟨[], path, rfl, rfl⟩
  | cons s steps ih =>
    cases hd : s.defect? k with
    | some defect =>
      rw [List.filter_cons_of_neg (by simp [hd])] at hquiet
      obtain ⟨stages, hpath, hsteps, hleft⟩ := ih path hquiet
      refine ⟨⟨m, ⟨s, none, [.objectDropped k defect]⟩, m⟩ :: stages,
        .cons ⟨rfl, rfl, Move.leads_of_defect m hd⟩ hpath, congrArg (s :: ·) hsteps, ?_⟩
      unfold withoutDefective at hleft ⊢
      rw [List.filter_cons_of_neg (by simp [hd]), hleft]
    | none =>
      rw [List.filter_cons_of_pos (by simp [hd])] at hquiet
      obtain ⟨stage, quiet, rfl, hstep, hquiet⟩ := List.map_eq_cons_iff.mp hquiet
      obtain ⟨next, first, rest⟩ := Steps.path_cons_iff.mp path
      obtain ⟨stages, hpath, hsteps, hleft⟩ := ih rest hquiet
      refine ⟨stage :: stages, .cons first hpath, ?_, ?_⟩
      · rw [stepsOf, List.map_cons, hstep]
        exact congrArg (s :: ·) hsteps
      · unfold withoutDefective at hleft ⊢
        rw [List.filter_cons_of_pos (by simp [hstep, hd]), hleft]

/-- **Objects of a kind that cannot be observed are invisible** in a history from one monitor to
another. -/
structure Invisible (k : Kind) (m : Monitor) (stages : List Stage) (m' : Monitor) : Prop where
  /-- Without their events the other stages are a history by themselves: from the same start, every
  one of them comes from the same monitor to the same monitor, finds the same and logs the same. -/
  remaining : Steps.Path Stage.Leads m (withoutDefective k stages) m'
  /-- At any place of the history, the monitor is the one that the other events alone lead to. -/
  before {earlier later : List Stage} {stage : Stage}
    (hstages : stages = earlier ++ stage :: later) :
    Steps.Path Stage.Leads m (withoutDefective k earlier) stage.before
  /-- Their own events leave the monitor as it is, and each logs one line about what is wrong. -/
  dropped {stage : Stage} (hmem : stage ∈ stages) {defect : Defect}
    (hd : stage.move.step.defect? k = some defect) :
    stage.after = stage.before ∧ stage.move.found = none ∧
      stage.move.logged = [.objectDropped k defect]
  /-- These lines are all that is logged of dropped objects of the kind, one for each event. -/
  warnings : (logOf stages).filter (IsDropOf k)
    = stages.filterMap fun stage => (stage.move.step.defect? k).map (LogEvent.objectDropped k)
  /-- Without these lines, the log is that of the other stages. -/
  logged : (logOf stages).filter (fun event => !IsDropOf k event)
    = logOf (withoutDefective k stages)
  /-- When a listing is done, the same is deleted and kept as if they had not been listed: what is
  known and not among the objects that this listing has seen is deleted. The kind is marked as
  listed in any case. -/
  listingDone {earlier later : List Stage} {stage : Stage}
    (hstages : stages = earlier ++ stage :: later)
    (hdone : stage.event? k = some .listingDone) :
    Steps.Path Stage.Leads m (withoutDefective k earlier ++ [stage]) stage.after ∧
      (∀ ref, ref ∈ (stage.after.tracker k).known ↔
        ref ∈ (stage.before.tracker k).known ∧ ¬ (stage.before.tracker k).Misses ref) ∧
      stage.after.directory.readiness.listed.contains k = true
  /-- Nothing is lost by leaving them out: whatever history there is of the other steps is left of
  a history of all steps. -/
  complete {quiet : List Stage} {last : Monitor} (path : Steps.Path Stage.Leads m quiet last)
    (hquiet : stepsOf quiet = (stepsOf stages).filter fun s => (s.defect? k).isNone) :
    ∃ stages', Steps.Path Stage.Leads m stages' last ∧ stepsOf stages' = stepsOf stages ∧
      withoutDefective k stages' = quiet

/-- **Objects that cannot be observed are invisible in every history**, whatever monitor it starts
from and whatever else happens. -/
theorem invisible_of_path (k : Kind) (path : Steps.Path Stage.Leads m stages m') :
    Invisible k m stages m' where
  remaining := path_withoutDefective k path
  before hstages := by
    subst hstages
    exact path_withoutDefective k (stage_of_path path).1
  dropped hmem _ hd := (leads_of_mem path hmem).of_defect hd
  warnings := filter_isDropOf_logOf k path
  logged := filter_not_isDropOf_logOf k path
  listingDone hstages hdone := by
    subst hstages
    obtain ⟨first, leads, -⟩ := stage_of_path path
    exact ⟨Steps.path_concat_iff.mpr ⟨_, path_withoutDefective k first, rfl, rfl, leads⟩,
      leads.listingDone hdone⟩
  complete hpath hquiet := exists_of_withoutDefective k _ hpath hquiet

end Histories

/-- A pod is listed again without a namespace, and so it is deleted. Before that, a pod without a
name was said to have changed. -/
theorem invisible_of_relisting :
    let pod (name : String) (ns : Option String) : Pod := { metadata := { name := some name, ns } }
    let nameless : Pod := {}
    let quiet : List MonitorStep := [.watch .pod .listingStarted,
      .watch .pod (.listed (pod "a" "default")), .watch .pod (.listed (pod "b" "default")),
      .watch .pod .listingDone, .watch .pod .listingStarted,
      .watch .pod (.listed (pod "a" "default")), .watch .pod .listingDone]
    let steps : List MonitorStep := [.watch .pod .listingStarted,
      .watch .pod (.listed (pod "a" "default")), .watch .pod (.listed (pod "b" "default")),
      .watch .pod .listingDone, .watch .pod (.changed nameless), .watch .pod .listingStarted,
      .watch .pod (.listed (pod "a" "default")), .watch .pod (.listed (pod "b" none)),
      .watch .pod .listingDone]
    let start : Monitor := { directory := .new Directory.defaultRequired false }
    Steps.Path Stage.Leads start (start.stagesOf steps) (start.run steps).1 ∧
      Invisible .pod start (start.stagesOf steps) (start.run steps).1 ∧
      stepsOf (withoutDefective .pod (start.stagesOf steps)) = quiet ∧
      (logOf (start.stagesOf steps)).filter (IsDropOf .pod) = [.objectDropped .pod .missingName,
        .objectDropped .pod (.missingNamespace "b")] ∧
      (start.run steps).1 = (start.run quiet).1 ∧ (start.run steps).1.pods.known.size = 1 := by
  intro pod nameless quiet steps start
  have path := start.path_stagesOf steps
  exact ⟨path, invisible_of_path .pod path, rfl, by decide +kernel, by decide +kernel,
    by decide +kernel⟩

end Monitor

end PodDirectory
