import PodDirectory.Proofs.FirstListings
import PodDirectory.Proofs.MonitorMoves

/-!
# What waits for the first listings are told

Three trackers mark their kinds, any number of waits on any tokens are looked at, and all of
it can happen in any order. What a look finds, and whether the directory counts as synced, is
told by what has happened before: `SyncContract` says how.

Readiness comes first. A look finds everything ready as soon as each required kind has been
listed once, even if the wait has been cancelled as well, and it is the only thing that makes
the directory synced. Nothing takes that back.
-/

namespace PodDirectory

namespace Monitor

open Std (ExtTreeSet)
open Steps (Path)

/-- **What waits are told** after some moves of a new monitor with these required kinds. -/
structure SyncContract (required : KindSet) (moves : List Move) (m : Monitor) : Prop where
  /-- The directory is synced exactly if some look has found everything ready. -/
  synced_iff : m.directory.synced = true ↔ ∃ move ∈ moves, move.found = some .ready
  /-- It is not synced before every required kind has been listed. -/
  allListed (h : m.directory.synced = true) : AllListed required (moves.map Move.step)
  /-- The next look at a wait that is under way finds everything ready exactly if every
  required kind has been listed. Otherwise it finds the wait cancelled exactly if its token
  has been cancelled. -/
  polled {name token : String} (hangs : HangsOn (moves.filterMap Move.turn?) name token)
    {next : Move} {m' : Monitor} (h : next.Leads m m') (hs : next.step = .wait (.poll name)) :
    (next.found = some .ready ↔ AllListed required (moves.map Move.step)) ∧
      (next.found = some .cancelled ↔ ¬ AllListed required (moves.map Move.step) ∧
        .wait (.cancel token) ∈ moves.map Move.step) ∧
      (next.found = some .pending ↔ ¬ AllListed required (moves.map Move.step) ∧
        .wait (.cancel token) ∉ moves.map Move.step)
  /-- So does a look at a wait with a token of its own, which is given up after it. -/
  polledOnce {cancelled : Bool} {next : Move} {m' : Monitor} (h : next.Leads m m')
    (hs : next.step = .wait (.once cancelled)) :
    (next.found = some .ready ↔ AllListed required (moves.map Move.step)) ∧
      (next.found = some .cancelled ↔
        ¬ AllListed required (moves.map Move.step) ∧ cancelled = true) ∧
      (next.found = some .pending ↔
        ¬ AllListed required (moves.map Move.step) ∧ ¬ cancelled = true)
  /-- A poll finds nothing if no wait of its name is under way. -/
  unknown {name : String}
    (hangs : ∀ token, ¬ HangsOn (moves.filterMap Move.turn?) name token)
    {next : Move} {m' : Monitor} (h : next.Leads m m') (hs : next.step = .wait (.poll name)) :
    next.found = none
  /-- Whatever happens next, the directory stays synced, and it becomes synced only by a look
  that finds everything ready. -/
  synced_next {next : Move} {m' : Monitor} (h : next.Leads m m') :
    m'.directory.synced = true ↔ m.directory.synced = true ∨ next.found = some .ready
  /-- Apart from the waits, a look that finds everything ready changes nothing else. -/
  success {next : Move} {m' : Monitor} (h : next.Leads m m') (hf : next.found = some .ready) :
    m' = { m with directory := { m.directory with synced := true }, waiters := m'.waiters }
  /-- Apart from the waits, whatever else is done about waits changes nothing at all: a wait
  that is started, given up or cancelled, and a look that fails or has to go on waiting. -/
  harmless {w : WaitStep} {next : Move} {m' : Monitor} (h : next.Leads m m')
    (hs : next.step = .wait w) (hf : next.found ≠ some .ready) :
    m' = { m with waiters := m'.waiters }

/-! ## What the next move finds -/

/-- A move about waits is the step of the monitor. -/
theorem Move.Leads.waited {m m' : Monitor} {move : Move} {w : WaitStep} (h : move.Leads m m')
    (hs : move.step = .wait w) : m' = (m.wait w).1 ∧ move.found = (m.wait w).2.1 := by
  cases h with
  | watch h => cases hs
  | step s =>
    obtain rfl : s = .wait w := hs
    exact ⟨rfl, rfl⟩

/-- Only moves about waits find anything. -/
theorem Move.Leads.exists_wait {m m' : Monitor} {move : Move} {result : WaitResult}
    (h : move.Leads m m') (hf : move.found = some result) : ∃ w, move.step = .wait w := by
  cases hs : move.step with
  | wait w => exact ⟨w, rfl⟩
  | notify | mark | watch | restart =>
    have hturn : move.turn? = none := by
      unfold Move.turn?
      rw [hs]
    rw [(h.no_turn hturn).2] at hf
    cases hf

/-- **Only a look that finds everything ready makes a directory synced**, and nothing makes it
unsynced. -/
theorem Move.Leads.synced_iff {m m' : Monitor} {move : Move} (h : move.Leads m m') :
    m'.directory.synced = true ↔ m.directory.synced = true ∨ move.found = some .ready := by
  by_cases hf : move.found = some .ready
  · obtain ⟨w, hs⟩ := h.exists_wait hf
    obtain ⟨rfl, hfound⟩ := h.waited hs
    rw [m.wait_of_ready w (hfound.symm.trans hf)]
    simp [hf]
  · simp only [hf, or_false]
    refine iff_of_eq (congrArg (· = true) ?_)
    cases h with
    | watch h => exact m.directory.synced_performAll _
    | step s =>
      cases s with
      | wait w => exact congrArg (·.directory.synced) (m.wait_of_not_ready w hf)
      | notify notice => exact m.directory.synced_apply notice
      | mark k => rfl
      | watch k e => exact m.directory.synced_performAll _
      | restart k => cases k <;> rfl

/-- **A look finds what is ready at the time**: a wait that is under way finds it out at a
poll, and a wait that is not finds nothing. -/
theorem Move.Leads.found_poll {m m' : Monitor} {move : Move} {name : String}
    (h : move.Leads m m') (hs : move.step = .wait (.poll name)) :
    move.found = m.waiters.tokens[name]?.map fun token =>
      m.directory.readiness.poll (m.waiters.cancelled.contains token) := by
  rw [(h.waited hs).2, (m.wait_eq_step _).2, Waiters.found_poll]

/-! ## Keeping the contract -/

variable {required : KindSet} {logsNodeUpdates : Bool} {moves : List Move} {m : Monitor}

/-- The directory is synced exactly if a look of the history has found everything ready. -/
theorem synced_iff_of_path {start : Monitor} (path : Path Move.Leads start moves m) :
    m.directory.synced = true ↔
      start.directory.synced = true ∨ ∃ move ∈ moves, move.found = some .ready := by
  induction path with
  | nil => simp
  | @cons start mid last move moves first rest ih =>
    simp [ih, first.synced_iff, or_assoc]

/-- A look that found everything ready came after every required kind had been listed. -/
theorem allListed_of_found (path : Path Move.Leads { directory := .new required logsNodeUpdates }
      moves m)
    (hspare : ∀ move ∈ moves, move.step.SparesMarks) {move : Move} (hmem : move ∈ moves)
    (hf : move.found = some .ready) : AllListed required (moves.map Move.step) := by
  obtain ⟨earlier, later, rfl⟩ := List.append_of_mem hmem
  obtain ⟨mid, first, second⟩ := Steps.path_append_iff.mp path
  obtain ⟨after, hmove, -⟩ := Steps.path_cons_iff.mp second
  have hready : mid.directory.readiness.isReady = true := by
    obtain ⟨w, hs⟩ := hmove.exists_wait hf
    rw [(hmove.waited hs).2, (mid.wait_eq_step w).2] at hf
    cases w with
    | once cancelled => exact Readiness.poll_eq_ready.mp (Option.some.inj hf)
    | poll name =>
      rw [Waiters.found_poll] at hf
      obtain ⟨token, -, hready⟩ := Option.map_eq_some_iff.mp hf
      exact Readiness.poll_eq_ready.mp hready
    | start | drop | cancel => cases hf
  have hearlier : ∀ s ∈ earlier.map Move.step, s.SparesMarks :=
    List.forall_mem_map.mpr fun move hmem => hspare move (List.mem_append_left _ hmem)
  have hlisted := (isReady_iff_allListed (takes_of_path first) hearlier).mp hready
  intro k hk
  rw [List.map_append]
  exact List.mem_append_left _ (hlisted k hk)

/-- **Initial sync is reported neither early nor wrongly**: a new monitor keeps its contract
with all who wait, along any moves, as long as kinds are marked by their trackers only. -/
theorem syncContract_of_path
    (path : Path Move.Leads { directory := .new required logsNodeUpdates } moves m)
    (hspare : ∀ move ∈ moves, move.step.SparesMarks) : SyncContract required moves m := by
  have hready : m.directory.readiness.isReady = true ↔ AllListed required (moves.map Move.step) :=
    isReady_iff_allListed (takes_of_path path) (List.forall_mem_map.mpr hspare)
  have hturns : Path Turn.Leads {} (moves.filterMap Move.turn?) m.waiters := turns_of_path path
  have hsynced : m.directory.synced = true ↔ ∃ move ∈ moves, move.found = some .ready := by
    simpa [Directory.new] using synced_iff_of_path path
  refine ⟨hsynced, fun h => ?_, fun {name token} hangs next m' h hs => ?_,
    fun {cancelled} next m' h hs => ?_, fun {name} hangs next m' h hs => ?_,
    fun h => h.synced_iff, fun {next m'} h hf => ?_, fun {w} next m' h hs hf => ?_⟩
  · obtain ⟨move, hmem, hf⟩ := hsynced.mp h
    exact allListed_of_found path hspare hmem hf
  · have hcancelled : m.waiters.cancelled.contains token = true ↔
        .wait (.cancel token) ∈ moves.map Move.step := by
      rw [← ExtTreeSet.mem_iff_contains, Waiters.mem_cancelled_iff hturns, mem_turns_iff]
    have hf := h.found_poll hs
    rw [(Waiters.getElem?_tokens_eq_some_iff hturns name token).mpr hangs, Option.map_some] at hf
    exact Readiness.found_iff_of_poll hf hready hcancelled
  · have hf : next.found = some (m.directory.readiness.poll cancelled) := by
      rw [(h.waited hs).2, (m.wait_eq_step _).2]
      rfl
    exact Readiness.found_iff_of_poll hf hready Iff.rfl
  · rw [h.found_poll hs, Option.map_eq_none_iff, Option.eq_none_iff_forall_ne_some]
    exact fun token ht => hangs token ((Waiters.getElem?_tokens_eq_some_iff hturns _ _).mp ht)
  · obtain ⟨w, hs⟩ := h.exists_wait hf
    obtain ⟨rfl, hfound⟩ := h.waited hs
    exact m.wait_of_ready w (hfound.symm.trans hf)
  · obtain ⟨rfl, hfound⟩ := h.waited hs
    exact m.wait_of_not_ready w fun h => hf (hfound.trans h)

/-- Two waits hang on one token, which is cancelled before the nodes are listed. The wait that
is looked at too early fails, and the other one succeeds all the same. -/
theorem syncContract_of_cancelled_waits :
    let early : List MonitorStep := [.wait (.start "a" "t"), .wait (.start "b" "t"),
      .watch .pod .listingStarted, .watch .pod .listingDone, .wait (.cancel "t"),
      .watch .endpointSlice .listingDone, .wait (.poll "b")]
    let steps := early ++ [.watch .node .listingDone]
    let start : Monitor := { directory := .new Directory.defaultRequired false }
    let moves := start.movesOf steps
    let m := (start.run steps).1
    (∀ move ∈ moves, move.step.SparesMarks) ∧ SyncContract Directory.defaultRequired moves m ∧
      some .cancelled ∈ moves.map Move.found ∧ ¬ m.directory.synced = true ∧
      ∃ next m', Move.Leads m next m' ∧ next.step = .wait (.poll "a") ∧
        next.found = some .ready ∧ m'.directory.synced = true := by
  intro early steps start moves m
  have hsteps : moves.map Move.step = steps := start.step_movesOf steps
  have path : Path Move.Leads { directory := .new Directory.defaultRequired false } moves m :=
    start.path_movesOf steps
  have hspare : ∀ s ∈ steps, s.SparesMarks := by decide
  have hmoves : ∀ move ∈ moves, move.step.SparesMarks := fun move hmove =>
    hspare _ (hsteps ▸ List.mem_map_of_mem hmove)
  have contract := syncContract_of_path path hmoves
  have hfailed : some .cancelled ∈ moves.map Move.found := by decide +kernel
  have hunsynced : some .ready ∉ moves.map Move.found := by decide +kernel
  have hangs : HangsOn (moves.filterMap Move.turn?) "a" "t" :=
    (Waiters.getElem?_tokens_eq_some_iff (turns_of_path path) "a" "t").mp (by decide +kernel)
  have hlisted : AllListed Directory.defaultRequired (moves.map Move.step) := by
    rw [hsteps]
    intro k hk
    cases k with
    | pod => simp [steps, early]
    | node => simp [steps]
    | endpointSlice => exact absurd hk (by decide)
  obtain ⟨next, m', hnext, hstep⟩ :
      ∃ next m', Move.Leads m next m' ∧ next.step = .wait (.poll "a") := ⟨_, _, .step _, rfl⟩
  have hfound : next.found = some .ready := (contract.polled hangs hnext hstep).1.mpr hlisted
  refine ⟨hmoves, contract, hfailed, ?_, next, m', hnext, hstep, hfound, ?_⟩
  · rw [contract.synced_iff]
    simpa using hunsynced
  · exact (contract.synced_next hnext).mpr (Or.inr hfound)

end Monitor

end PodDirectory
