import PodDirectory.Proofs.WaitHistories

/-!
# What those who wait in a lobby are told

Kinds are marked, waits are started, looked at, given up and cancelled, in any order and as
often as one likes. `Lobby.Contract` says what can be told of a lobby after any such run from
the steps of the run alone: whether everything is ready, what the next look at each wait
finds, and what has been logged.

Marks and waits hardly meet. What is ready is decided by the marks, since no step about waits
changes it (`Lobby.run_of_waits`), and which waits are under way, and on which tokens, is decided
by the turns that waits take (`Lobby.path_turnsOf`). They meet only in a look, and a look is
told by what is ready then and by whether the token has been cancelled by then.
-/

namespace PodDirectory

/-- A kind is logged when it is marked for the first time. -/
theorem Readiness.logged_mark (r : Readiness) (k : Kind) :
    (r.mark k).2.2 = if r.listed.contains k = true then [] else [.kindMarked k] := by
  unfold mark
  split <;> rfl

namespace Lobby

open Std (ExtTreeSet)

/-- A lobby in which nothing has happened yet. -/
def opened (required : KindSet) : Lobby := { readiness := { required } }

/-- Whether each of these kinds has been marked, in whatever order and however often. -/
def AllMarked (required : KindSet) (steps : List LobbyStep) : Prop :=
  ∀ k, required.contains k = true → .mark k ∈ steps

/-- The turns that waits take in a run. -/
def turnsOf (l : Lobby) : List LobbyStep → List Turn
  | [] => []
  | .mark k :: steps => (l.step (.mark k)).1.turnsOf steps
  | .wait w :: steps => ⟨w, (l.step (.wait w)).2.1⟩ :: (l.step (.wait w)).1.turnsOf steps

/-- **What a lobby that opened with these required kinds owes to those who wait in it**, after
some steps which led to it and have logged some lines. -/
structure Contract (required : KindSet) (steps : List LobbyStep) (l : Lobby)
    (logged : List LogEvent) : Prop where
  /-- It is ready exactly if every required kind has been marked. -/
  ready_iff : l.readiness.isReady = true ↔ AllMarked required steps
  /-- It stays ready, whatever happens later. -/
  stays_ready (h : l.readiness.isReady = true) (later : List LobbyStep) :
    (l.run later).1.readiness.isReady = true
  /-- A poll of a wait that is under way succeeds exactly if every required kind has been
  marked. Otherwise it fails exactly if the token of the wait has been cancelled, before the
  wait was started or after, and goes on waiting if not. -/
  polled {name token : String} (hangs : HangsOn ((opened required).turnsOf steps) name token) :
    ((l.step (.wait (.poll name))).2.1 = some .ready ↔ AllMarked required steps) ∧
      ((l.step (.wait (.poll name))).2.1 = some .cancelled ↔
        ¬ AllMarked required steps ∧ .wait (.cancel token) ∈ steps) ∧
      ((l.step (.wait (.poll name))).2.1 = some .pending ↔
        ¬ AllMarked required steps ∧ .wait (.cancel token) ∉ steps)
  /-- So does a look at a wait with a token of its own, which is given up after it. -/
  polledOnce (cancelled : Bool) :
    ((l.step (.wait (.once cancelled))).2.1 = some .ready ↔ AllMarked required steps) ∧
      ((l.step (.wait (.once cancelled))).2.1 = some .cancelled ↔
        ¬ AllMarked required steps ∧ cancelled = true) ∧
      ((l.step (.wait (.once cancelled))).2.1 = some .pending ↔
        ¬ AllMarked required steps ∧ ¬ cancelled = true)
  /-- A poll finds nothing if no wait of its name is under way. -/
  unknown {name : String}
    (hangs : ∀ token, ¬ HangsOn ((opened required).turnsOf steps) name token) :
    (l.step (.wait (.poll name))).2.1 = none
  /-- Nothing else matters to a poll: when its wait was started, how often it and other waits
  were polled, and whether it was cancelled before or after the last mark. In two runs that
  agree on what is marked and on the token, it finds the same. -/
  polled_alike {steps' : List LobbyStep} {name token name' token' : String}
    (hangs : HangsOn ((opened required).turnsOf steps) name token)
    (hangs' : HangsOn ((opened required).turnsOf steps') name' token')
    (hmarked : AllMarked required steps ↔ AllMarked required steps')
    (hcancelled : .wait (.cancel token) ∈ steps ↔ .wait (.cancel token') ∈ steps') :
    (l.step (.wait (.poll name))).2.1 =
      (((opened required).run steps').1.step (.wait (.poll name'))).2.1
  /-- Whatever is done about waits next, what is marked stays as it is, and nothing is
  logged. -/
  waited {later : List LobbyStep} (h : ∀ s ∈ later, ∃ w, s = .wait w) :
    (l.run later).1.readiness = l.readiness ∧ (l.run later).2 = []
  /-- The next mark of a kind is logged exactly if it is the first one. -/
  logged_mark (k : Kind) :
    (l.step (.mark k)).2.2 = if .mark k ∈ steps then [] else [.kindMarked k]
  /-- Each kind that was marked has one line in the log, and no other kind has any. -/
  count_logged (k : Kind) : logged.count (.kindMarked k) = if .mark k ∈ steps then 1 else 0
  /-- There are no other lines. -/
  logged_only {e : LogEvent} (h : e ∈ logged) : ∃ k, .mark k ∈ steps ∧ e = .kindMarked k

/-! ## Marks -/

section Mark

variable (l : Lobby) (k : Kind)

theorem run_cons (s : LobbyStep) (steps : List LobbyStep) :
    l.run (s :: steps) =
      (((l.step s).1.run steps).1, (l.step s).2.2 ++ ((l.step s).1.run steps).2) :=
  rfl

theorem required_step (s : LobbyStep) :
    (l.step s).1.readiness.required = l.readiness.required := by
  cases s with
  | mark k => exact l.readiness.required_mark k
  | wait w => rfl

/-- A kind is listed once it is marked, and stays so. -/
theorem contains_listed_step (s : LobbyStep) :
    (l.step s).1.readiness.listed.contains k = true ↔
      l.readiness.listed.contains k = true ∨ s = .mark k := by
  cases s with
  | mark j =>
    show (l.readiness.mark j).1.listed.contains k = true ↔ _
    rw [Readiness.contains_listed_mark, Bool.or_eq_true, decide_eq_true_iff, or_comm,
      LobbyStep.mark.injEq, eq_comm (a := k)]
  | wait w => simp [step]

/-- **The log tells of a kind when it is marked for the first time**, and at no other step. -/
theorem logged_step (s : LobbyStep) :
    (l.step s).2.2.count (.kindMarked k) =
      if s = .mark k ∧ ¬ l.readiness.listed.contains k = true then 1 else 0 := by
  cases s with
  | mark j =>
    show (l.readiness.mark j).2.2.count (.kindMarked k) = _
    rw [Readiness.logged_mark]
    by_cases hj : j = k
    · by_cases h : l.readiness.listed.contains k = true <;> simp [hj, h]
    · by_cases h : l.readiness.listed.contains j = true <;> simp [hj, h]
  | wait w => simp [step]

theorem required_run (steps : List LobbyStep) :
    (l.run steps).1.readiness.required = l.readiness.required :=
  Steps.run_keeps (P := fun l' : Lobby => l'.readiness.required = l.readiness.required)
    (fun l' s h => (l'.required_step s).trans h) rfl steps

/-- **The kinds that are listed after a run** are those that were listed before it, and those
that it marks. -/
theorem contains_listed_run (steps : List LobbyStep) :
    (l.run steps).1.readiness.listed.contains k = true ↔
      l.readiness.listed.contains k = true ∨ .mark k ∈ steps := by
  induction steps generalizing l with
  | nil => simp [run]
  | cons s steps ih =>
    rw [run_cons, ih, contains_listed_step, List.mem_cons, or_assoc, eq_comm (a := s)]

/-- **What is ready stays ready.** -/
theorem isReady_run (h : l.readiness.isReady = true) (steps : List LobbyStep) :
    (l.run steps).1.readiness.isReady = true := by
  rw [Readiness.isReady_iff] at h ⊢
  intro k hk
  rw [required_run] at hk
  exact (l.contains_listed_run k steps).mpr (Or.inl (h k hk))

/-- **A run logs a kind once**, if it marks it and it was not listed before. -/
theorem count_logged_run (steps : List LobbyStep) :
    (l.run steps).2.count (.kindMarked k) =
      if .mark k ∈ steps ∧ ¬ l.readiness.listed.contains k = true then 1 else 0 := by
  induction steps generalizing l with
  | nil => simp [run]
  | cons s steps ih =>
    rw [run_cons, List.count_append, logged_step, ih]
    simp only [contains_listed_step, List.mem_cons, eq_comm (a := LobbyStep.mark k) (b := s)]
    -- the first step marks the kind, or leaves it to the others to do so
    by_cases hs : s = .mark k <;> simp [hs]

/-- A run logs the kinds that it marks, and nothing else. -/
theorem exists_mark_of_logged {steps : List LobbyStep} {e : LogEvent}
    (h : e ∈ (l.run steps).2) : ∃ k, .mark k ∈ steps ∧ e = .kindMarked k := by
  obtain ⟨l', s, hs, he⟩ := Steps.mem_run h
  cases s with
  | mark k =>
    replace he : e ∈ (l'.readiness.mark k).2.2 := he
    rw [Readiness.logged_mark] at he
    split at he
    · cases he
    · exact ⟨k, hs, List.mem_singleton.mp he⟩
  | wait w => cases he

end Mark

/-! ## Waits -/

section Wait

variable (l : Lobby)

/-- **The waits of a lobby take their turns**, whatever is marked in between. -/
theorem path_turnsOf (steps : List LobbyStep) :
    Steps.Path Turn.Leads l.waiters (l.turnsOf steps) (l.run steps).1.waiters := by
  induction steps generalizing l with
  | nil => exact .nil _
  | cons s steps ih =>
    cases s with
    | mark k => exact ih (l.step (.mark k)).1
    | wait w => exact .cons ⟨l.readiness.poll, rfl, rfl⟩ (ih (l.step (.wait w)).1)

/-- The turns that waits take are the steps about waits. -/
theorem mem_turnsOf_iff {w : WaitStep} {steps : List LobbyStep} :
    w ∈ (l.turnsOf steps).map Turn.step ↔ .wait w ∈ steps := by
  induction steps generalizing l with
  | nil => simp [turnsOf]
  | cons s steps ih => cases s <;> simp [turnsOf, ih]

/-- A poll finds what is ready, if a wait of its name is under way. -/
theorem found_poll (name : String) :
    (l.step (.wait (.poll name))).2.1 = l.waiters.tokens[name]?.map fun token =>
      l.readiness.poll (l.waiters.cancelled.contains token) :=
  l.waiters.found_poll l.readiness.poll name

/-- **Steps about waits change nothing that is marked**, and log nothing. -/
theorem run_of_waits {steps : List LobbyStep} (h : ∀ s ∈ steps, ∃ w, s = .wait w) :
    (l.run steps).1.readiness = l.readiness ∧ (l.run steps).2 = [] := by
  induction steps generalizing l with
  | nil => exact ⟨rfl, rfl⟩
  | cons s steps ih =>
    obtain ⟨w, rfl⟩ := h s List.mem_cons_self
    exact ih (l.step (.wait w)).1 fun s hs => h s (List.mem_cons_of_mem _ hs)

end Wait

/-! ## Keeping the contract -/

section Opened

variable (required : KindSet) (steps : List LobbyStep)

theorem contains_listed_opened (k : Kind) :
    ((opened required).run steps).1.readiness.listed.contains k = true ↔ .mark k ∈ steps := by
  simp [contains_listed_run, opened]

/-- **Everything is ready exactly if every required kind has been marked.** -/
theorem isReady_opened :
    ((opened required).run steps).1.readiness.isReady = true ↔ AllMarked required steps := by
  rw [Readiness.isReady_iff, required_run]
  exact forall₂_congr fun k _ => contains_listed_opened required steps k

variable {required steps}

/-- **A poll of a wait that is under way is a look**, at a wait that has been cancelled if its
token has been. -/
theorem found_of_hangsOn {name token : String}
    (hangs : HangsOn ((opened required).turnsOf steps) name token) :
    ∃ cancelled, (((opened required).run steps).1.step (.wait (.poll name))).2.1
        = some (((opened required).run steps).1.readiness.poll cancelled) ∧
      (cancelled = true ↔ .wait (.cancel token) ∈ steps) := by
  have path := (opened required).path_turnsOf steps
  have htoken := (Waiters.getElem?_tokens_eq_some_iff path name token).mpr hangs
  refine ⟨_, by rw [found_poll, htoken, Option.map_some], ?_⟩
  rw [← ExtTreeSet.mem_iff_contains, Waiters.mem_cancelled_iff path, mem_turnsOf_iff]

/-- **Nothing else matters to a poll** than what is marked and whether the token is cancelled
by then. -/
theorem found_alike {steps' : List LobbyStep} {name token name' token' : String}
    (hangs : HangsOn ((opened required).turnsOf steps) name token)
    (hangs' : HangsOn ((opened required).turnsOf steps') name' token')
    (hmarked : AllMarked required steps ↔ AllMarked required steps')
    (hcancelled : .wait (.cancel token) ∈ steps ↔ .wait (.cancel token') ∈ steps') :
    (((opened required).run steps).1.step (.wait (.poll name))).2.1 =
      (((opened required).run steps').1.step (.wait (.poll name'))).2.1 := by
  obtain ⟨cancelled, hf, hc⟩ := found_of_hangsOn hangs
  obtain ⟨cancelled', hf', hc'⟩ := found_of_hangsOn hangs'
  have hready : ((opened required).run steps).1.readiness.isReady =
      ((opened required).run steps').1.readiness.isReady := by
    rw [Bool.eq_iff_iff, isReady_opened, isReady_opened, hmarked]
  have hsame : cancelled = cancelled' := by rw [Bool.eq_iff_iff, hc, hc', hcancelled]
  rw [hf, hf', hsame, Readiness.poll, Readiness.poll, hready]

variable (required steps)

/-- **A lobby keeps its contract along any run**: it is ready when all that is required has
been marked, every look at a wait finds what is so at the time, and every kind is logged
once. -/
theorem contract_of_run :
    Contract required steps ((opened required).run steps).1 ((opened required).run steps).2 := by
  have hready := isReady_opened required steps
  have path := (opened required).path_turnsOf steps
  refine ⟨hready, fun h later => isReady_run _ h later, fun {name token} hangs => ?_,
    fun cancelled => Readiness.found_iff_of_poll rfl hready Iff.rfl, fun {name} hangs => ?_,
    found_alike, fun h => run_of_waits _ h, fun k => ?_, fun k => ?_,
    fun h => exists_mark_of_logged _ h⟩
  · obtain ⟨cancelled, hf, hcancelled⟩ := found_of_hangsOn hangs
    exact Readiness.found_iff_of_poll hf hready hcancelled
  · rw [found_poll, Option.map_eq_none_iff, Option.eq_none_iff_forall_ne_some]
    exact fun token ht => hangs token ((Waiters.getElem?_tokens_eq_some_iff path _ _).mp ht)
  · show (((opened required).run steps).1.readiness.mark k).2.2 = _
    simp only [Readiness.logged_mark, contains_listed_opened]
  · simp [count_logged_run, opened]

/-- Two waits hang on one token, which is cancelled before the nodes are marked. The wait that
is looked at too early is over then, and the other one succeeds all the same; a kind that is
marked twice is logged once. -/
theorem contract_of_run_of_shared_token :
    let required := KindSet.ofList [.pod, .node]
    let steps : List LobbyStep := [.wait (.start "a" "t"), .mark .pod, .wait (.poll "a"),
      .mark .endpointSlice, .wait (.cancel "t"), .wait (.start "b" "t"), .mark .pod,
      .wait (.poll "b"), .wait (.once true), .mark .node]
    let turns := (opened required).turnsOf steps
    let l := ((opened required).run steps).1
    let logged := ((opened required).run steps).2
    Contract required steps l logged ∧ HangsOn turns "a" "t" ∧
      (∀ token, ¬ HangsOn turns "b" token) ∧
      (l.step (.wait (.poll "a"))).2.1 = some .ready ∧
      (l.step (.wait (.poll "b"))).2.1 = none ∧
      logged = [.kindMarked .pod, .kindMarked .endpointSlice, .kindMarked .node] := by
  intro required steps turns l logged
  have contract : Contract required steps l logged := contract_of_run required steps
  have path : Steps.Path Turn.Leads {} turns l.waiters := (opened required).path_turnsOf steps
  have hangs : HangsOn turns "a" "t" :=
    (Waiters.getElem?_tokens_eq_some_iff path "a" "t").mp (by decide +kernel)
  have hover : ∀ token, ¬ HangsOn turns "b" token := by
    intro token h
    have htoken := (Waiters.getElem?_tokens_eq_some_iff path "b" token).mpr h
    rw [show l.waiters.tokens["b"]? = none by decide +kernel] at htoken
    cases htoken
  have hmarked : AllMarked required steps := by
    intro k hk
    cases k with
    | pod => simp [steps]
    | node => simp [steps]
    | endpointSlice => exact absurd hk (by decide)
  exact ⟨contract, hangs, hover, (contract.polled hangs).1.mpr hmarked, contract.unknown hover,
    by decide +kernel⟩

end Opened

end Lobby

end PodDirectory
