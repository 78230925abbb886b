import PodDirectory.Proofs.Interleavings

/-!
# What watchers come to by taking turns

The order in which watchers take their turns is not settled. What becomes of each of them is told
by how many turns it has had: with `n` turns it has taken the first `n` items of its feed, and one
turn more than the feed has items brings it to its end, if the feed leads to one. What the monitor
has come to is a run of the events taken so far, in an order that keeps the order within each
kind (`Watchers.exists_steps_of_run`).

A run returns with the end of the first watcher, and never without an error
(`Watchers.result_ne_ok`). Since the feeds from a server are never over, there is one error only,
and it depends on the order in its time alone (`Run.result_launch_eq_some_iff`).
-/

namespace PodDirectory

/-! ## One watcher -/

namespace Feed

variable {k : Kind}

/-- The end that a watcher has come to after so many turns, if it has. -/
def endAfter (f : Feed k) (turns : Nat) : Option TaskEnd :=
  if f.items.length < turns then f.ending.taskEnd? else none

/-- What a watcher has left after so many turns, if it is still at work. -/
def leftAfter (f : Feed k) (turns : Nat) : Option (Feed k) :=
  if (f.endAfter turns).isSome then none else some { f with items := f.items.drop turns }

/-- The events that a watcher has taken after so many turns. -/
def eventsAfter (f : Feed k) (turns : Nat) : List (WatchEvent k) :=
  eventsIn (f.items.take turns)

variable {f : Feed k} {m n : Nat} {how : TaskEnd}

theorem endAfter_eq_some_iff :
    f.endAfter n = some how ↔ f.ending.taskEnd? = some how ∧ f.items.length < n := by
  unfold endAfter
  split <;> simp [*]

@[simp] theorem endAfter_zero (f : Feed k) : f.endAfter 0 = none := rfl

theorem leftAfter_of_some (h : f.endAfter n = some how) : f.leftAfter n = none := by
  rw [leftAfter, h, Option.isSome_some, if_pos rfl]

theorem leftAfter_of_none (h : f.endAfter n = none) :
    f.leftAfter n = some { f with items := f.items.drop n } := by
  rw [leftAfter, h, Option.isSome_none, if_neg Bool.false_ne_true]

/-- A watcher comes to its end in its first turns or in those that follow. -/
theorem endAfter_add (f : Feed k) (m n : Nat) :
    f.endAfter (m + n) = (f.endAfter m).or ((f.leftAfter m).bind (·.endAfter n)) := by
  cases h : f.endAfter m with
  | some how =>
    obtain ⟨hending, hlength⟩ := endAfter_eq_some_iff.mp h
    exact endAfter_eq_some_iff.mpr ⟨hending, by omega⟩
  | none =>
    rw [leftAfter_of_none h, Option.none_or, Option.bind_some]
    unfold endAfter at h ⊢
    rw [List.length_drop]
    split at h
    · simp [h]
    · exact if_congr (by omega) rfl rfl

theorem leftAfter_add (f : Feed k) (m n : Nat) :
    f.leftAfter (m + n) = (f.leftAfter m).bind (·.leftAfter n) := by
  have hend := f.endAfter_add m n
  cases h : f.endAfter m with
  | some how =>
    rw [h, Option.some_or] at hend
    rw [leftAfter_of_some hend, leftAfter_of_some h, Option.bind_none]
  | none =>
    rw [h, leftAfter_of_none h, Option.none_or, Option.bind_some] at hend
    rw [leftAfter_of_none h, Option.bind_some, leftAfter, leftAfter, hend, List.drop_drop]

theorem eventsAfter_add (f : Feed k) (m n : Nat) :
    f.eventsAfter (m + n) = f.eventsAfter m ++ (f.leftAfter m).elim [] (·.eventsAfter n) := by
  unfold eventsAfter
  cases h : f.endAfter m with
  | some how =>
    obtain ⟨-, hlength⟩ := endAfter_eq_some_iff.mp h
    rw [leftAfter_of_some h, Option.elim_none, List.append_nil,
      List.take_of_length_le (by omega), List.take_of_length_le (by omega)]
  | none =>
    rw [leftAfter_of_none h, Option.elim_some, List.take_add, eventsIn_append]

/-- After as many turns as there are items all events are taken. -/
theorem eventsAfter_of_length_le (h : f.items.length ≤ n) : f.eventsAfter n = f.events := by
  rw [eventsAfter, List.take_of_length_le h, eventsIn_items]

end Feed

/-! ## One turn -/

namespace Watchers

variable {w : Watchers} {k : Kind} {order : List Kind}

/-- The turns of a kind are those that are its first, and those that follow. -/
theorem count_cons_turn (k : Kind) (order : List Kind) (j : Kind) :
    (k :: order).count j = [k].count j + order.count j :=
  (List.count_append : ([k] ++ order).count j = _)

/-- **What a turn comes to**: the watcher waits or is not at work, or it takes an item, or it comes
to its end. -/
theorem turn_cases (w : Watchers) (k : Kind) :
    ((w.turn k).1 = w ∧ ∀ f, w.feeds k = some f → f.items = [] ∧ f.ending.taskEnd? = none) ∨
    (∃ item items ending, w.feeds k = some ⟨item :: items, ending⟩ ∧ (w.turn k).1 =
      { w with
        monitor := (w.take k item).1
        feeds := Kind.update w.feeds k (some ⟨items, ending⟩) }) ∨
    ∃ ending how, w.feeds k = some ⟨[], ending⟩ ∧ ending.taskEnd? = some how ∧ (w.turn k).1 =
      { w with feeds := Kind.update w.feeds k none, ends := w.ends ++ [how] } := by
  unfold turn
  split
  · next h => exact Or.inl ⟨rfl, by simp [h]⟩
  · next item items ending h => exact Or.inr (Or.inl ⟨item, items, ending, h, rfl⟩)
  · next ending h =>
    cases hend : ending.taskEnd? with
    | none => exact Or.inl ⟨rfl, fun f hf => by simp_all⟩
    | some how => exact Or.inr (Or.inr ⟨ending, how, h, hend, rfl⟩)

/-- A turn takes an item off the feed of its kind, and leaves the others as they are. -/
theorem feeds_turn (w : Watchers) (k j : Kind) :
    (w.turn k).1.feeds j = (w.feeds j).bind (·.leftAfter ([k].count j)) := by
  by_cases hj : k = j
  · subst hj
    rw [List.count_singleton_self]
    obtain ⟨hsame, hidle⟩ | ⟨item, items, ending, hfeed, hnext⟩ |
      ⟨ending, how, hfeed, hend, hnext⟩ := w.turn_cases k
    · rw [hsame]
      cases hfeed : w.feeds k with
      | none => rfl
      | some f =>
        obtain ⟨hitems, hending⟩ := hidle f hfeed
        have hnone : f.endAfter 1 = none := by simp [Feed.endAfter, hending]
        rw [Option.bind_some, Feed.leftAfter_of_none hnone, hitems, List.drop_nil, ← hitems]
    · simp only [hnext, hfeed, Kind.update_self]
      rfl
    · have hsome : Feed.endAfter (⟨[], ending⟩ : Feed k) 1 = some how := hend
      simp only [hnext, hfeed, Kind.update_self, Option.bind_some, Feed.leftAfter_of_some hsome]
  · have hcount : [k].count j = 0 := by simp [hj]
    have hkept : (w.feeds j).bind (·.leftAfter 0) = w.feeds j := by cases w.feeds j <;> rfl
    rw [hcount, hkept]
    obtain ⟨hsame, -⟩ | ⟨item, items, ending, -, hnext⟩ | ⟨ending, how, -, -, hnext⟩ :=
      w.turn_cases k
    · rw [hsame]
    · simp only [hnext, Kind.update_of_ne _ _ hj]
    · simp only [hnext, Kind.update_of_ne _ _ hj]

/-- The watcher comes to its end if nothing was left of a feed that leads to one. -/
theorem ends_turn (w : Watchers) (k : Kind) :
    (w.turn k).1.ends = w.ends ++ ((w.feeds k).bind (·.endAfter 1)).toList := by
  obtain ⟨hsame, hidle⟩ | ⟨item, items, ending, hfeed, hnext⟩ |
    ⟨ending, how, hfeed, hend, hnext⟩ := w.turn_cases k
  · rw [hsame]
    cases hfeed : w.feeds k with
    | none => simp
    | some f => simp [Feed.endAfter, (hidle f hfeed).2]
  · simp [hnext, hfeed, Feed.endAfter]
  · simp [hnext, hfeed, Feed.endAfter, hend]

/-- The events that the watcher of a kind takes by turns in an order. -/
def eventsAfter (w : Watchers) (order : List Kind) (j : Kind) : List (WatchEvent j) :=
  (w.feeds j).elim [] (·.eventsAfter (order.count j))

/-- Those of the first turn, and those of the turns that follow. -/
theorem eventsAfter_cons (w : Watchers) (k : Kind) (order : List Kind) (j : Kind) :
    w.eventsAfter (k :: order) j = w.eventsAfter [k] j ++ (w.turn k).1.eventsAfter order j := by
  unfold eventsAfter
  rw [feeds_turn, count_cons_turn k order j]
  cases w.feeds j with
  | none => rfl
  | some f => exact f.eventsAfter_add _ _

/-- One turn takes one event at most, and the monitor takes it too. -/
theorem exists_steps_of_turn (w : Watchers) (k : Kind) :
    ∃ steps, (w.turn k).1.monitor = (w.monitor.run steps).1 ∧
      Interleaves (w.eventsAfter [k]) steps := by
  have hother : ∀ {j}, k ≠ j → w.eventsAfter [k] j = [] := by
    intro j hj
    unfold eventsAfter
    cases w.feeds j <;> simp [hj, Feed.eventsAfter]
  -- without an event of its own the kind takes none, and neither do the others
  have hnone : w.eventsAfter [k] k = [] → Interleaves (w.eventsAfter [k]) [] := by
    refine fun hk => ⟨by simp, fun j => ?_⟩
    by_cases hj : k = j
    · subst hj
      rw [hk, List.filterMap_nil]
    · rw [hother hj, List.filterMap_nil]
  obtain ⟨hsame, hidle⟩ | ⟨item, items, ending, hfeed, hnext⟩ | ⟨ending, how, hfeed, -, hnext⟩ :=
    w.turn_cases k
  · refine ⟨[], by rw [hsame]; rfl, hnone ?_⟩
    unfold eventsAfter
    cases hfeed : w.feeds k with
    | none => rfl
    | some f => simp [Feed.eventsAfter, (hidle f hfeed).1]
  · rw [hnext]
    cases item with
    | error failure => exact ⟨[], rfl, hnone (by simp [eventsAfter, hfeed, Feed.eventsAfter])⟩
    | ok e =>
      refine ⟨[.watch k e], rfl, by simp [MonitorStep.IsWatch], fun j => ?_⟩
      by_cases hj : k = j
      · subst hj
        simp [eventsAfter, hfeed, Feed.eventsAfter]
      · rw [hother hj, List.filterMap_cons_none (MonitorStep.event?_watch_of_ne e hj),
          List.filterMap_nil]
  · rw [hnext]
    exact ⟨[], rfl, hnone (by simp [eventsAfter, hfeed, Feed.eventsAfter])⟩

/-! ## Turns in an order -/

theorem run_cons (w : Watchers) (k : Kind) (order : List Kind) :
    (w.run (k :: order)).1 = ((w.turn k).1.run order).1 := rfl

theorem run_append (w : Watchers) (first second : List Kind) :
    (w.run (first ++ second)).1 = ((w.run first).1.run second).1 := by
  unfold run
  rw [Steps.run_append]

/-- **What watchers have left** goes by the number of their turns. -/
theorem feeds_run (w : Watchers) (order : List Kind) (j : Kind) :
    (w.run order).1.feeds j = (w.feeds j).bind (·.leftAfter (order.count j)) := by
  induction order generalizing w with
  | nil =>
    show w.feeds j = _
    cases w.feeds j <;> rfl
  | cons k order ih =>
    rw [run_cons, ih, feeds_turn, Option.bind_assoc, count_cons_turn k order j]
    simp only [Feed.leftAfter_add]

/-- **Which ends watchers come to** goes by the number of their turns. -/
theorem mem_ends_run_iff {how : TaskEnd} : how ∈ (w.run order).1.ends ↔
    how ∈ w.ends ∨ ∃ j, (w.feeds j).bind (·.endAfter (order.count j)) = some how := by
  induction order generalizing w with
  | nil =>
    show how ∈ w.ends ↔ _
    simp
  | cons k order ih =>
    have hadd : ∀ j, (w.feeds j).bind (·.endAfter ((k :: order).count j)) =
        ((w.feeds j).bind (·.endAfter ([k].count j))).or
          (((w.turn k).1.feeds j).bind (·.endAfter (order.count j))) := by
      intro j
      rw [feeds_turn, count_cons_turn k order j]
      cases w.feeds j with
      | none => rfl
      | some f => exact f.endAfter_add _ _
    rw [run_cons, ih, ends_turn, List.mem_append, or_assoc]
    refine or_congr_right ?_
    simp only [hadd, Option.or_eq_some_iff, exists_or]
    refine or_congr ?_ (exists_congr fun j => (and_iff_right_of_imp fun hlater => ?_).symm)
    · -- only the watcher whose turn it is can come to its end in it
      rw [Option.mem_toList]
      refine ⟨fun h => ⟨k, by rwa [List.count_singleton_self]⟩, fun ⟨j, h⟩ => ?_⟩
      by_cases hj : k = j
      · subst hj
        rwa [List.count_singleton_self] at h
      · have hcount : [k].count j = 0 := by simp [hj]
        rw [hcount] at h
        cases hfeed : w.feeds j <;> simp [hfeed] at h
    · -- whoever comes to its end later has not done so before
      cases hfeed : w.feeds j with
      | none => rfl
      | some f =>
        rw [feeds_turn, hfeed, Option.bind_some] at hlater
        rw [Option.bind_some, Option.eq_none_iff_forall_ne_some]
        intro how' hend
        rw [Feed.leftAfter_of_some hend] at hlater
        cases hlater

/-- **What the monitor comes to**: it takes the events that the watchers have taken, in an order
that keeps the order within each kind. -/
theorem exists_steps_of_run (w : Watchers) (order : List Kind) :
    ∃ steps, (w.run order).1.monitor = (w.monitor.run steps).1 ∧
      Interleaves (w.eventsAfter order) steps := by
  induction order generalizing w with
  | nil =>
    refine ⟨[], rfl, by simp, fun j => ?_⟩
    unfold eventsAfter
    cases w.feeds j <;> rfl
  | cons k order ih =>
    obtain ⟨first, hmonitor, hwatch, hfirst⟩ := w.exists_steps_of_turn k
    obtain ⟨rest, hlast, hwatch', hrest⟩ := ih (w.turn k).1
    refine ⟨first ++ rest, ?_, List.forall_mem_append.mpr ⟨hwatch, hwatch'⟩, fun j => ?_⟩
    · rw [run_cons, hlast, hmonitor, Monitor.run, Monitor.run, Monitor.run, Steps.run_append]
    · rw [List.filterMap_append, hfirst, hrest, ← eventsAfter_cons]

/-! ## Results -/

/-- **A run never returns without an error**, whatever it is fed with. -/
theorem result_ne_ok (w : Watchers) : w.result ≠ some (.ok ()) := by
  unfold result
  intro h
  obtain ⟨ended, -, hresult⟩ := Option.map_eq_some_iff.mp h
  rcases ended with _ | _ | _ <;> cases hresult

/-- **A run that has returned has returned for good.** -/
theorem result_run_of_some {result : Except RunError Unit} (h : w.result = some result)
    (order : List Kind) : (w.run order).1.result = some result := by
  induction order generalizing w with
  | nil => exact h
  | cons k order ih =>
    rw [run_cons]
    refine ih ?_
    unfold Watchers.result firstEnd at h ⊢
    cases hends : w.ends with
    | cons first rest =>
      rw [hends] at h
      rw [ends_turn, hends, List.cons_append]
      exact h
    | nil =>
      -- there are no watchers, so that nobody takes the turn
      rw [hends] at h
      have hnone : w.feeds k = none := by
        cases hfeed : w.feeds k with
        | none => rfl
        | some f =>
          have hany : (Kind.all.any fun j => (w.feeds j).isSome) = true :=
            List.any_eq_true.mpr ⟨k, Kind.mem_all k, by rw [hfeed]; rfl⟩
          simp [hany] at h
      have hsame : (w.turn k).1 = w := by
        unfold turn
        rw [hnone]
      rw [hsame, hends]
      exact h

/-- A run goes on as long as there are watchers and none has come to its end. -/
theorem result_eq_none_iff : w.result = none ↔ w.ends = [] ∧ ∃ k, (w.feeds k).isSome := by
  have hany : (Kind.all.any fun k => (w.feeds k).isSome) = true ↔ ∃ k, (w.feeds k).isSome := by
    rw [List.any_eq_true]
    exact ⟨fun ⟨k, _, h⟩ => ⟨k, h⟩, fun ⟨k, h⟩ => ⟨k, Kind.mem_all k, h⟩⟩
  unfold result firstEnd
  rw [Option.map_eq_none_iff, ← hany]
  cases w.ends with
  | nil => simp [← Option.isSome_iff_ne_none]
  | cons how ends => simp

section Start

variable (hends : w.ends = [])
include hends

/-- Ends that are come to from the start are those of the watchers at work. -/
theorem mem_ends_run_iff_of_start {how : TaskEnd} : how ∈ (w.run order).1.ends ↔
    ∃ j f, w.feeds j = some f ∧ f.endAfter (order.count j) = some how := by
  simp only [mem_ends_run_iff, hends, List.not_mem_nil, false_or, Option.bind_eq_some_iff]

variable (hfeeds : ∃ k, (w.feeds k).isSome)
include hfeeds

/-- **A run goes on until some watcher has come to its end.** -/
theorem result_run_eq_none_iff : (w.run order).1.result = none ↔
    ∀ j f, w.feeds j = some f → f.endAfter (order.count j) = none := by
  rw [result_eq_none_iff]
  constructor
  · rintro ⟨hnil, -⟩ j f hf
    refine Option.eq_none_iff_forall_ne_some.mpr fun how hend => ?_
    have hmem := (mem_ends_run_iff_of_start hends).mpr ⟨j, f, hf, hend⟩
    rw [hnil] at hmem
    cases hmem
  · intro h
    refine ⟨List.eq_nil_iff_forall_not_mem.mpr fun how hmem => ?_, ?_⟩
    · obtain ⟨j, f, hf, hend⟩ := (mem_ends_run_iff_of_start hends).mp hmem
      rw [h j f hf] at hend
      cases hend
    · obtain ⟨k, hk⟩ := hfeeds
      obtain ⟨f, hf⟩ := Option.isSome_iff_exists.mp hk
      refine ⟨k, ?_⟩
      rw [feeds_run, hf, Option.bind_some, Feed.leftAfter_of_none (h k f hf), Option.isSome_some]

/-- **The end of one watcher decides what a run returns.** -/
theorem exists_end_of_result_run {result : Except RunError Unit}
    (h : (w.run order).1.result = some result) :
    ∃ j f how, w.feeds j = some f ∧ f.endAfter (order.count j) = some how ∧
      result = (supervise (some how)).1 := by
  cases hlist : (w.run order).1.ends with
  | nil =>
    -- no watcher has come to its end, so that nothing is returned
    have hnone : (w.run order).1.result = none := by
      refine (result_run_eq_none_iff hends hfeeds).mpr fun j f hf => ?_
      refine Option.eq_none_iff_forall_ne_some.mpr fun how hend => ?_
      have hmem := (mem_ends_run_iff_of_start hends).mpr ⟨j, f, hf, hend⟩
      rw [hlist] at hmem
      cases hmem
    rw [hnone] at h
    cases h
  | cons how rest =>
    have hmem : how ∈ (w.run order).1.ends := by rw [hlist]; exact List.mem_cons_self
    rw [Watchers.result, firstEnd, hlist] at h
    obtain ⟨j, f, hf, hend⟩ := (mem_ends_run_iff_of_start hends).mp hmem
    exact ⟨j, f, how, hf, hend, (Option.some.inj h).symm⟩

end Start

end Watchers

/-! ## The watchers of a run -/

namespace Run

variable {settings : Settings} {server : Server} {order : List Kind}

theorem feeds_launch_eq_some_iff {k : Kind} {f : Feed k} :
    (launch settings server).feeds k = some f ↔
      k ∈ settings.watchedKinds ∧ feed settings server k = f := by
  unfold launch
  dsimp only
  split <;> simp [*]

theorem exists_feeds_launch (settings : Settings) (server : Server) :
    ∃ k, ((launch settings server).feeds k).isSome :=
  ⟨.pod, Option.isSome_iff_exists.mpr
    ⟨_, feeds_launch_eq_some_iff.mpr ⟨by simp [Settings.watchedKinds], rfl⟩⟩⟩

/-- The feeds from a server lead to one end only. -/
theorem endAfter_feed_eq_some_iff {k : Kind} {turns : Nat} {how : TaskEnd} :
    (feed settings server k).endAfter turns = some how ↔ how = .panicked ∧
      (feed settings server k).ending = .crashed ∧
        (feed settings server k).items.length < turns := by
  have hclosed : (feed settings server k).ending ≠ .closed := Feed.ending_under_ne_closed server _ _
  rw [Feed.endAfter_eq_some_iff]
  cases hending : (feed settings server k).ending with
  | quiet | stalled => simp [FeedEnd.taskEnd?]
  | closed => exact absurd hending hclosed
  | crashed => simp [FeedEnd.taskEnd?, eq_comm]

/-- **What a run has returned** when its watchers have taken turns in an order: one error, if some
watcher whose feed crashes has had more turns than its feed has items, and nothing otherwise. -/
theorem result_launch_eq_some_iff {result : Except RunError Unit} :
    ((launch settings server).run order).1.result = some result ↔
      result = .error .watcherFailed ∧ ∃ k ∈ settings.watchedKinds,
        (feed settings server k).ending = .crashed ∧
          (feed settings server k).items.length < order.count k := by
  have hend : ∀ {result}, ((launch settings server).run order).1.result = some result →
      result = .error .watcherFailed ∧ ∃ k ∈ settings.watchedKinds,
        (feed settings server k).ending = .crashed ∧
          (feed settings server k).items.length < order.count k := by
    intro result h
    obtain ⟨k, f, how, hf, hend, rfl⟩ :=
      Watchers.exists_end_of_result_run rfl (exists_feeds_launch settings server) h
    obtain ⟨hk, rfl⟩ := feeds_launch_eq_some_iff.mp hf
    obtain ⟨rfl, hcrashed, hturns⟩ := endAfter_feed_eq_some_iff.mp hend
    exact ⟨rfl, k, hk, hcrashed, hturns⟩
  refine ⟨hend, ?_⟩
  rintro ⟨rfl, k, hk, hcrashed, hturns⟩
  cases hresult : ((launch settings server).run order).1.result with
  | some result => rw [(hend hresult).1]
  | none =>
    have hnone := (Watchers.result_run_eq_none_iff rfl (exists_feeds_launch settings server)).mp
      hresult k _ (feeds_launch_eq_some_iff.mpr ⟨hk, rfl⟩)
    rw [endAfter_feed_eq_some_iff.mpr ⟨rfl, hcrashed, hturns⟩] at hnone
    cases hnone

/-- **Which events a run feeds the trackers with** does not depend on the order, when all watchers
have got through their feeds. -/
theorem monitor_launch_eq_run (horder : ∀ k ∈ settings.watchedKinds,
    (feed settings server k).items.length ≤ order.count k) :
    ((launch settings server).run order).1.monitor
      = ((start settings).run (stepsOf settings server)).1 := by
  obtain ⟨steps, hmonitor, hsteps⟩ :=
    Watchers.exists_steps_of_run (launch settings server) order
  have hfeeds : (launch settings server).eventsAfter order = feedsOf settings server := by
    funext k
    unfold Watchers.eventsAfter launch feedsOf
    dsimp only
    split
    · next hk => exact Feed.eventsAfter_of_length_le (horder k hk)
    · rfl
  rw [hfeeds] at hsteps
  rw [hmonitor]
  exact (Monitor.run_agree (start settings) hsteps (interleaves_stepsOf settings server)).1

/-- In the order in which a run is looked at, every watcher gets through its feed and has a turn
left. -/
theorem length_lt_count_inFull {k : Kind} (hk : k ∈ settings.watchedKinds) :
    (feed settings server k).items.length < (inFull settings server).count k := by
  have hturns : (List.replicate ((feed settings server k).items.length + 1) k).Sublist
      (inFull settings server) :=
    List.sublist_flatten_of_mem (List.mem_map_of_mem hk)
  have hcount := hturns.count_le k
  rw [List.count_replicate_self] at hcount
  omega

/-- The monitor of a run when everything is quiet, before the last look at the wait. -/
def fed (settings : Settings) (server : Server) : Monitor :=
  ((launch settings server).run (inFull settings server)).1.monitor

theorem fed_eq_run (settings : Settings) (server : Server) :
    fed settings server = ((start settings).run (stepsOf settings server)).1 :=
  monitor_launch_eq_run fun _ hk => Nat.le_of_lt (length_lt_count_inFull hk)

/-- **Every history that brings the same events comes to the same monitor.** -/
theorem fed_of_interleaving {moves : List Monitor.Move} {m : Monitor}
    (path : Steps.Path Monitor.Move.Leads (start settings) moves m)
    (h : Interleaves (feedsOf settings server) (moves.map Monitor.Move.step)) :
    m = fed settings server := by
  rw [fed_eq_run, (Monitor.run_of_interleaving path h).1]
  exact (Monitor.run_agree (start settings) h (interleaves_stepsOf settings server)).1

/-- **A run has of each kind what the feed of the kind makes of the start.** -/
theorem sameOn_fed (settings : Settings) (server : Server) (k : Kind) :
    (fed settings server).SameOn k
      ((start settings).watchAll k (feedsOf settings server k)).1 := by
  obtain ⟨hwatch, hfeeds⟩ := interleaves_stepsOf settings server
  rw [fed_eq_run, ← hfeeds k]
  exact (Monitor.sameOn_run hwatch (.refl k (start settings))).1

/-! ## What is seen of a run -/

theorem crashes_iff_exists : crashes settings server = true ↔
    ∃ k ∈ settings.watchedKinds, (feed settings server k).ending = .crashed := by
  unfold crashes
  simp only [List.any_eq_true, beq_iff_eq]

/-- **A run that is looked at has returned if some watcher crashes**, and otherwise it goes on and
has looked at the wait a last time. -/
theorem against_eq (settings : Settings) (server : Server) :
    (crashes settings server = true ∧ against settings server = .error .watcherFailed) ∨
    crashes settings server = false ∧ ∃ r, against settings server = .ok r ∧ r.returned = false ∧
      r.sync = (fed settings server).directory.readiness.poll true ∧
      r.monitor = { fed settings server with
        directory := ((fed settings server).directory.conclude r.sync).1 } := by
  cases hc : crashes settings server with
  | true =>
    obtain ⟨k, hk, hending⟩ := crashes_iff_exists.mp hc
    have hresult : ((launch settings server).run (inFull settings server)).1.result
        = some (.error .watcherFailed) :=
      result_launch_eq_some_iff.mpr ⟨rfl, k, hk, hending, length_lt_count_inFull hk⟩
    refine Or.inl ⟨rfl, ?_⟩
    unfold against
    simp only [hresult]
  | false =>
    have hresult : ((launch settings server).run (inFull settings server)).1.result = none := by
      refine Option.eq_none_iff_forall_ne_some.mpr fun result h => ?_
      obtain ⟨-, k, hk, hending, -⟩ := result_launch_eq_some_iff.mp h
      rw [crashes_iff_exists.mpr ⟨k, hk, hending⟩] at hc
      cases hc
    refine Or.inr ⟨rfl, ?_⟩
    unfold against fed
    generalize (launch settings server).run (inFull settings server) = last at hresult
    simp only [hresult]
    exact ⟨_, rfl, rfl, rfl, rfl⟩

end Run

end PodDirectory
