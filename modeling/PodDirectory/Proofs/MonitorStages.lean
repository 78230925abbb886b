import PodDirectory.Proofs.Interleavings

/-!
# The stages of a history

A move of a monitor says what was done, what was found and what was logged, but not what the
monitor was before it and what it was afterwards. A stage says that too. So a path of stages
is a history in which every monitor that it comes through can be looked up, and two histories can be
compared at every point and not at the end only.
-/

namespace PodDirectory.Monitor

/-- **A move, with the monitor before it and the one after it.** -/
structure Stage where
  before : Monitor
  move : Move
  after : Monitor

namespace Stage

/-- **Whether a stage leads from one monitor to another.** -/
structure Leads (m : Monitor) (s : Stage) (m' : Monitor) : Prop where
  before_eq : s.before = m
  after_eq : s.after = m'
  leads : s.move.Leads m m'

/-- The event that a stage brings to the tracker of a kind, if it does. -/
def event? (k : Kind) (s : Stage) : Option (WatchEvent k) := s.move.step.event? k

end Stage

/-- **The log of a history.** -/
def logOf (stages : List Stage) : List LogEvent := stages.flatMap (·.move.logged)

@[simp] theorem logOf_nil : logOf [] = [] := rfl

@[simp] theorem logOf_cons (stage : Stage) (stages : List Stage) :
    logOf (stage :: stages) = stage.move.logged ++ logOf stages := rfl

/-- The steps of a history. -/
def stepsOf (stages : List Stage) : List MonitorStep := stages.map (·.move.step)

/-- At every point of a history, there is a history before it and one after it. -/
theorem stage_of_path {earlier later : List Stage} {stage : Stage} {m m' : Monitor}
    (path : Steps.Path Stage.Leads m (earlier ++ stage :: later) m') :
    Steps.Path Stage.Leads m earlier stage.before ∧
      stage.move.Leads stage.before stage.after ∧
      Steps.Path Stage.Leads stage.after later m' := by
  obtain ⟨before, first, rest⟩ := Steps.path_append_iff.mp path
  obtain ⟨after, ⟨rfl, rfl, leads⟩, rest⟩ := Steps.path_cons_iff.mp rest
  exact ⟨first, leads, rest⟩

/-- At every stage of a history there is a move. -/
theorem leads_of_mem {stages : List Stage} {stage : Stage} {m m' : Monitor}
    (path : Steps.Path Stage.Leads m stages m') (hmem : stage ∈ stages) :
    stage.move.Leads stage.before stage.after := by
  obtain ⟨earlier, later, rfl⟩ := List.append_of_mem hmem
  exact (stage_of_path path).2.1

/-- **The stages of a run.** -/
def stagesOf (m : Monitor) : List MonitorStep → List Stage
  | [] => []
  | s :: steps => ⟨m, ⟨s, (m.step s).2.1, (m.step s).2.2⟩, (m.step s).1⟩ ::
      (m.step s).1.stagesOf steps

theorem path_stagesOf (m : Monitor) (steps : List MonitorStep) :
    Steps.Path Stage.Leads m (m.stagesOf steps) (m.run steps).1 := by
  induction steps generalizing m with
  | nil => exact .nil m
  | cons s steps ih => exact .cons ⟨rfl, rfl, .step s⟩ (ih (m.step s).1)

theorem stepsOf_stagesOf (m : Monitor) (steps : List MonitorStep) :
    stepsOf (m.stagesOf steps) = steps := by
  induction steps generalizing m with
  | nil => rfl
  | cons s steps ih =>
    show s :: stepsOf ((m.step s).1.stagesOf steps) = s :: steps
    rw [ih]

theorem tracker_setTracker (m : Monitor) (k : Kind) (t : Tracker k) (d : Directory) :
    ({ m.setTracker k t with directory := d } : Monitor).tracker k = t := by
  cases k <;> rfl

/-- At a move that brings an event to a tracker, the tracker takes it. -/
theorem Move.Leads.exists_takes {k : Kind} {m m' : Monitor} {move : Move} {e : WatchEvent k}
    (h : move.Leads m m') (he : move.step.event? k = some e) :
    ∃ effects, (m.tracker k).Takes e (m'.tracker k) effects ∧
      move.logged = (m.directory.performAll effects).2 := by
  obtain ⟨step, found, logged⟩ := move
  obtain rfl : step = .watch k e := MonitorStep.eq_watch_of_event? he
  obtain ⟨t, effects, takes, -, hlogged, rfl⟩ := h.watched
  rw [tracker_setTracker]
  exact ⟨effects, takes, hlogged⟩

/-- When a listing is done, what is known and was not seen by it is forgotten, and the kind is
marked. -/
theorem Move.Leads.listingDone {k : Kind} {m m' : Monitor} {move : Move} (h : move.Leads m m')
    (hdone : move.step.event? k = some .listingDone) :
    (∀ ref, ref ∈ (m'.tracker k).known ↔
      ref ∈ (m.tracker k).known ∧ ¬ (m.tracker k).Misses ref) ∧
      m'.directory.readiness.listed.contains k = true := by
  have hstep : move.step = .watch k .listingDone := MonitorStep.eq_watch_of_event? hdone
  have hmarked := h.takes.contains_listed_iff (by rw [hstep]; trivial) k
  refine ⟨fun ref => ?_, hmarked.mpr (Or.inr hstep)⟩
  obtain ⟨effects, takes, -⟩ := h.exists_takes hdone
  obtain ⟨gone, hgone, hleft, -⟩ := takes.outcome.of_listingDone
  have hgoes : ref ∈ gone ↔ ref ∈ (m.tracker k).known ∧ (m.tracker k).Misses ref :=
    hgone.mem_iff.trans Tracker.mem_vanished
  rw [hleft, Std.ExtTreeMap.mem_iff_isSome_getElem?, Tracker.getElem?_known_finishListing]
  split
  · next hmem => simp [(hgoes.mp hmem).2]
  · next hmem =>
    rw [← Std.ExtTreeMap.mem_iff_isSome_getElem?]
    exact ⟨fun hknown => ⟨hknown, fun hm => hmem (hgoes.mpr ⟨hknown, hm⟩)⟩, And.left⟩

end PodDirectory.Monitor
