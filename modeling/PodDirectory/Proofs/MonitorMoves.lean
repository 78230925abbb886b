import PodDirectory.Proofs.LoggedLines
import PodDirectory.Proofs.MonitorPods
import PodDirectory.Proofs.WaitHistories

/-!
# What a monitor shows as it goes along

Of a step of a monitor more can be seen than the monitor after it: what a look at a wait has
found, and what was logged. A `Monitor.Move` is a step together with both, and a path of moves
is a history in which all of it can be looked up. As in `Monitor.Takes`, objects that vanished
may be visited in any order.

The waits of a monitor take their turns at some of the moves (`Monitor.Move.turn?`), so that the
laws of waits hold of monitors, whatever else happens in between (`Monitor.turns_of_path`).
-/

namespace PodDirectory

namespace Monitor

/-! ## Moves -/

/-- A step that was taken, with what it found, if it looked at a wait, and what it logged. -/
structure Move where
  step : MonitorStep
  found : Option WaitResult
  logged : List LogEvent

/-- **Whether a move leads from one monitor to another.** -/
inductive Move.Leads (m : Monitor) : Move → Monitor → Prop where
  | step (s : MonitorStep) : Leads m ⟨s, (m.step s).2.1, (m.step s).2.2⟩ (m.step s).1
  | watch {k : Kind} {e : WatchEvent k} {t : Tracker k} {effects : List Effect}
    (h : (m.tracker k).Takes e t effects) :
    Leads m ⟨.watch k e, none, (m.directory.performAll effects).2⟩
      { m.setTracker k t with directory := (m.directory.performAll effects).1 }

theorem Move.Leads.takes {m m' : Monitor} {move : Move} (h : move.Leads m m') :
    Takes m move.step m' := by
  cases h with
  | step s => exact .step s
  | watch h => exact .watch h

/-- A path of moves is a path of their steps. -/
theorem takes_of_path {m m' : Monitor} {moves : List Move}
    (path : Steps.Path Move.Leads m moves m') :
    Steps.Path Takes m (moves.map Move.step) m' := by
  induction path with
  | nil => exact .nil _
  | cons first _ ih => exact .cons first.takes ih

/-- What a move that watches shows, in whatever order it visits. -/
theorem Move.Leads.watched {m m' : Monitor} {k : Kind} {e : WatchEvent k}
    {found : Option WaitResult} {logged : List LogEvent}
    (h : Move.Leads m ⟨.watch k e, found, logged⟩ m') :
    ∃ t effects, (m.tracker k).Takes e t effects ∧ found = none ∧
      logged = (m.directory.performAll effects).2 ∧
      m' = { m.setTracker k t with directory := (m.directory.performAll effects).1 } := by
  cases h with
  | step => exact ⟨_, _, .step e, rfl, rfl, rfl⟩
  | watch h => exact ⟨_, _, h, rfl, rfl, rfl⟩

/-- **The moves of a run.** -/
def movesOf (m : Monitor) : List MonitorStep → List Move
  | [] => []
  | s :: steps => ⟨s, (m.step s).2.1, (m.step s).2.2⟩ :: (m.step s).1.movesOf steps

theorem path_movesOf (m : Monitor) (steps : List MonitorStep) :
    Steps.Path Move.Leads m (m.movesOf steps) (m.run steps).1 := by
  induction steps generalizing m with
  | nil => exact .nil m
  | cons s steps ih => exact .cons (.step s) (ih (m.step s).1)

theorem step_movesOf (m : Monitor) (steps : List MonitorStep) :
    (m.movesOf steps).map Move.step = steps := by
  induction steps generalizing m with
  | nil => rfl
  | cons s steps ih => rw [movesOf, List.map_cons, ih]

/-! ## Lines of the log

What can be logged at a move is told by what was done.
-/

/-- **The occasions on which a monitor logs a line**, by what was done. -/
inductive Occasion (m : Monitor) : MonitorStep → LogEvent → Prop where
  | notify {n : Notice} {event : LogEvent} (h : n.Logs event) : Occasion m (.notify n) event
  | mark (k : Kind) : Occasion m (.mark k) (.kindMarked k)
  | watch {k : Kind} {e : WatchEvent k} {t : Tracker k} {effects : List Effect} {effect : Effect}
    {event : LogEvent} (takes : (m.tracker k).Takes e t effects) (hmem : effect ∈ effects)
    (h : effect.Logs event) : Occasion m (.watch k e) event
  | synced (w : WaitStep) (pods : Int64) : Occasion m (.wait w) (.syncComplete pods)
  | failed (w : WaitStep) (pods : Int64) : Occasion m (.wait w) (.syncFailed pods)

/-- **Every line of a move has an occasion.** -/
theorem Move.Leads.occasion {m m' : Monitor} {move : Move} (h : move.Leads m m')
    {event : LogEvent} (hmem : event ∈ move.logged) : m.Occasion move.step event := by
  cases h with
  | watch takes =>
    obtain ⟨effect, heffect, hlogs⟩ := Directory.logs_of_mem_performAll hmem
    exact .watch takes heffect hlogs
  | step s =>
    cases s with
    | notify n => exact .notify (Directory.logs_of_mem_apply hmem)
    | mark k =>
      obtain rfl := Readiness.eq_of_mem_mark hmem
      exact .mark k
    | watch k e =>
      obtain ⟨effect, heffect, hlogs⟩ := Directory.logs_of_mem_performAll hmem
      exact .watch (.step e) heffect hlogs
    | restart k => exact absurd hmem List.not_mem_nil
    | wait w =>
      have hwait : event ∈ (m.wait w).2.2 := hmem
      unfold Monitor.wait at hwait
      cases hs : m.waiters.step m.directory.readiness.poll w with
      | mk waiters found =>
        rw [hs] at hwait
        cases found with
        | none => exact absurd hwait List.not_mem_nil
        | some result =>
          cases result with
          | ready =>
            cases List.mem_singleton.mp hwait
            exact .synced w _
          | pending => exact absurd hwait List.not_mem_nil
          | cancelled =>
            cases List.mem_singleton.mp hwait
            exact .failed w _

/-! ## Waits -/

section Wait

variable (m : Monitor) (w : WaitStep)

/-- What is found, and the waits that are under way then, are those of the waits alone. -/
theorem wait_eq_step :
    (m.wait w).1.waiters = (m.waiters.step m.directory.readiness.poll w).1 ∧
      (m.wait w).2.1 = (m.waiters.step m.directory.readiness.poll w).2 := by
  unfold wait
  cases m.waiters.step m.directory.readiness.poll w with
  | mk waiters found => cases found <;> exact ⟨rfl, rfl⟩

/-- **A look that finds everything ready makes the directory synced**, and changes nothing
else but the waits. -/
theorem wait_of_ready (h : (m.wait w).2.1 = some .ready) :
    (m.wait w).1 =
      { m with
        directory := { m.directory with synced := true }
        waiters := (m.wait w).1.waiters } := by
  unfold wait at h ⊢
  cases hs : m.waiters.step m.directory.readiness.poll w with
  | mk waiters found =>
    rw [hs] at h
    cases found with
    | none => cases h
    | some result =>
      obtain rfl : result = .ready := Option.some.inj h
      rfl

/-- **Anything else that is done about waits changes nothing but the waits.** -/
theorem wait_of_not_ready (h : (m.wait w).2.1 ≠ some .ready) :
    (m.wait w).1 = { m with waiters := (m.wait w).1.waiters } := by
  unfold wait at h ⊢
  cases hs : m.waiters.step m.directory.readiness.poll w with
  | mk waiters found =>
    rw [hs] at h
    cases found with
    | none => rfl
    | some result =>
      cases result with
      | ready => exact absurd rfl h
      | pending => rfl
      | cancelled => rfl

end Wait

/-- The turn that waits take at a move, if they take one. -/
def Move.turn? (move : Move) : Option Turn :=
  match move.step with
  | .wait w => some ⟨w, move.found⟩
  | _ => none

/-- The turns that waits take are the steps about waits. -/
theorem mem_turns_iff {moves : List Move} {w : WaitStep} :
    w ∈ (moves.filterMap Move.turn?).map Turn.step ↔ .wait w ∈ moves.map Move.step := by
  rw [List.map_filterMap, List.mem_filterMap, List.mem_map]
  refine exists_congr fun move => and_congr_right fun _ => ?_
  obtain ⟨s, found, logged⟩ := move
  cases s <;> simp [Move.turn?]

/-- At a move about waits, the waits take their turn. -/
theorem Move.Leads.turn {m m' : Monitor} {move : Move} {turn : Turn} (h : move.Leads m m')
    (ht : move.turn? = some turn) : turn.Leads m.waiters m'.waiters := by
  cases h with
  | watch h => cases ht
  | step s =>
    cases s with
    | wait w =>
      cases ht
      obtain ⟨hwaiters, hfound⟩ := m.wait_eq_step w
      exact ⟨m.directory.readiness.poll, hwaiters.symm, hfound.symm⟩
    | notify | mark | watch | restart => cases ht

/-- At any other move the waits stay as they are, and nothing is found. -/
theorem Move.Leads.no_turn {m m' : Monitor} {move : Move} (h : move.Leads m m')
    (ht : move.turn? = none) : m'.waiters = m.waiters ∧ move.found = none := by
  have hset : ∀ (k : Kind) (t : Tracker k), (m.setTracker k t).waiters = m.waiters := by
    intro k t
    cases k <;> rfl
  cases h with
  | watch h => exact ⟨hset _ _, rfl⟩
  | step s =>
    cases s with
    | wait w => cases ht
    | notify notice => exact ⟨rfl, rfl⟩
    | mark k => exact ⟨rfl, rfl⟩
    | watch k e => exact ⟨hset _ _, rfl⟩
    | restart k => exact ⟨hset _ _, rfl⟩

/-- **The waits of a monitor take their turns**, whatever else happens in between. -/
theorem turns_of_path {m m' : Monitor} {moves : List Move}
    (path : Steps.Path Move.Leads m moves m') :
    Steps.Path Turn.Leads m.waiters (moves.filterMap Move.turn?)
      m'.waiters :=
  path.filterMap (fun _ _ _ _ _ h ht => h.turn ht) (fun _ _ _ _ h ht => (h.no_turn ht).1)

end Monitor

end PodDirectory
