import Mathlib.Data.List.Perm.Basic
import PodDirectory.Proofs.SeparateKinds
import PodDirectory.Proofs.VisitingOrder
import PodDirectory.Watch.Run

/-!
# Feeding the trackers in any order

The watchers of the three kinds run side by side, and the events that they bring to a monitor
can come in any order that keeps the order within each kind. `Interleaves` says which steps
these are. Since the kinds do not interfere, what a monitor has of a kind in the end is what it
would have had from the events of this kind alone, and so is what is logged of the kind
(`Monitor.sameOn_run`). The kinds are all there is, so that every interleaving comes to the same
(`Monitor.interleavings_agree`).
-/

namespace PodDirectory

/-! ## Interleavings -/

namespace MonitorStep

/-- The event that a step brings to the tracker of a kind, if it does. -/
def event? (k : Kind) : MonitorStep → Option (WatchEvent k)
  | .watch j e => if h : j = k then some (h ▸ e) else none
  | _ => none

/-- Whether a step brings an event to a tracker. -/
def IsWatch : MonitorStep → Prop
  | .watch _ _ => True
  | _ => False

instance : (s : MonitorStep) → Decidable s.IsWatch
  | .watch _ _ => inferInstanceAs (Decidable True)
  | .notify _ | .mark _ | .restart _ | .wait _ => inferInstanceAs (Decidable False)

@[simp] theorem event?_watch_self {k : Kind} (e : WatchEvent k) :
    event? k (.watch k e) = some e := by
  simp [event?]

theorem event?_watch_of_ne {j k : Kind} (e : WatchEvent j) (hne : j ≠ k) :
    event? k (.watch j e) = none := by
  simp [event?, hne]

/-- The event that a step brings to a tracker says what the step is. -/
theorem eq_watch_of_event? {k : Kind} {s : MonitorStep} {e : WatchEvent k}
    (h : s.event? k = some e) : s = .watch k e := by
  cases s with
  | watch j e' =>
    by_cases hj : j = k
    · subst hj
      rw [event?_watch_self] at h
      rw [Option.some.inj h]
    · rw [event?_watch_of_ne e' hj] at h
      cases h
  | notify | mark | restart | wait => cases h

theorem IsWatch.sparesPods {s : MonitorStep} (h : s.IsWatch) : s.SparesPods := by
  cases s with
  | watch => trivial
  | notify | mark | restart | wait => exact h.elim

end MonitorStep

/-- **Steps that interleave the events of the kinds**: nothing else happens, and the events of
each kind keep their order. -/
def Interleaves (feeds : (k : Kind) → List (WatchEvent k)) (steps : List MonitorStep) : Prop :=
  (∀ s ∈ steps, s.IsWatch) ∧ ∀ k, steps.filterMap (MonitorStep.event? k) = feeds k

/-- The same events, but none of nodes. -/
def withoutNodes (feeds : (k : Kind) → List (WatchEvent k)) : (k : Kind) → List (WatchEvent k)
  | .pod => feeds .pod
  | .node => []
  | .endpointSlice => feeds .endpointSlice

/-- Logs that have the same lines of each kind, in whatever order, and no others, have the same
lines. -/
theorem perm_of_filter_kind {logged logged' : List LogEvent}
    (h : ∀ event ∈ logged ++ logged', event.kind?.isSome)
    (hkinds : ∀ k, (logged.filter (·.kind? = some k)).Perm (logged'.filter (·.kind? = some k))) :
    logged.Perm logged' := by
  refine List.perm_iff_count.mpr fun event => ?_
  cases hkind : event.kind? with
  | none =>
    have hnot : event ∉ logged ++ logged' := fun hmem => by simpa [hkind] using h event hmem
    rw [List.mem_append, not_or] at hnot
    rw [List.count_eq_zero_of_not_mem hnot.1, List.count_eq_zero_of_not_mem hnot.2]
  | some k =>
    have hcount := (hkinds k).count_eq event
    rwa [List.count_filter (by simpa using hkind), List.count_filter (by simpa using hkind)]
      at hcount

/-- Of the lines that are not about one kind, those about another are all of its lines. -/
theorem filter_kind_filter_ne (logged : List LogEvent) (j k : Kind) :
    (logged.filter (·.kind? ≠ some j)).filter (·.kind? = some k)
      = if k = j then [] else logged.filter (·.kind? = some k) := by
  rw [List.filter_filter]
  split
  · next hk => exact List.filter_eq_nil_iff.mpr fun event _ => by simp [hk]
  · next hk => exact List.filter_congr fun event _ => by grind

namespace Monitor

variable {k : Kind}

/-! ## One kind in a run -/

/-- **A tracker changes at its own events only**, and when it is replaced. -/
theorem Takes.tracker_eq {m m' : Monitor} {s : MonitorStep} (h : Takes m s m')
    (hkept : s ≠ .restart k) (hs : s.event? k = none) : m'.tracker k = m.tracker k := by
  cases s with
  | notify | mark =>
    cases h
    cases k <;> rfl
  | watch j e =>
    obtain ⟨t, effects, -, rfl⟩ := h.watched
    have hne : j ≠ k := by
      rintro rfl
      simp at hs
    cases j <;> cases k <;> first | rfl | exact absurd rfl hne
  | restart j =>
    cases h
    have hne : j ≠ k := fun hj => hkept (congrArg _ hj)
    cases j <;> cases k <;> first | rfl | exact absurd rfl hne
  | wait w =>
    cases h
    show (m.wait w).1.tracker k = _
    unfold Monitor.wait
    cases m.waiters.step m.directory.readiness.poll w with
    | mk waiters found => cases found <;> cases k <;> rfl

/-- **What a monitor has of a kind goes by the events of the kind alone**, and so does what is
logged of the kind. -/
theorem sameOn_run {steps : List MonitorStep} (hsteps : ∀ s ∈ steps, s.IsWatch)
    {m alone : Monitor} (h : SameOn k m alone) :
    SameOn k (m.run steps).1 (alone.watchAll k (steps.filterMap (MonitorStep.event? k))).1 ∧
      (m.run steps).2.filter (·.kind? = some k)
        = (alone.watchAll k (steps.filterMap (MonitorStep.event? k))).2 := by
  induction steps generalizing m alone with
  | nil => exact ⟨h, rfl⟩
  | cons s steps ih =>
    have hrest := fun s hs => hsteps s (List.mem_cons_of_mem _ hs)
    cases s with
    | watch j e =>
      have hrun : m.run (.watch j e :: steps)
          = (((m.watch j e).1.run steps).1, (m.watch j e).2 ++ ((m.watch j e).1.run steps).2) :=
        rfl
      rw [hrun, List.filter_append]
      by_cases hj : j = k
      · subst hj
        obtain ⟨hsame, hlogged⟩ := h.watch e
        obtain ⟨hstate, hlater⟩ := ih hrest hsame
        have hown : (m.watch j e).2.filter (·.kind? = some j) = (alone.watch j e).2 := by
          rw [← hlogged]
          exact List.filter_eq_self.mpr fun event hmem =>
            decide_eq_true (kind?_of_mem_watch hmem)
        rw [List.filterMap_cons_some (MonitorStep.event?_watch_self e)]
        exact ⟨hstate, congrArg₂ (· ++ ·) hown hlater⟩
      · obtain ⟨hstate, hlater⟩ := ih hrest ((m.sameOn_watch_of_ne e hj).trans h)
        have hother : (m.watch j e).2.filter (·.kind? = some k) = [] := by
          refine List.filter_eq_nil_iff.mpr fun event hmem => ?_
          simpa [kind?_of_mem_watch hmem] using hj
        rw [List.filterMap_cons_none (MonitorStep.event?_watch_of_ne e hj), hother]
        exact ⟨hstate, hlater⟩
    | notify | mark | restart | wait => exact (hsteps _ List.mem_cons_self).elim

/-- Every line that is logged in a run of events is about a kind. -/
theorem kind?_isSome_of_mem_run {steps : List MonitorStep} (hsteps : ∀ s ∈ steps, s.IsWatch)
    {m : Monitor} {event : LogEvent} (h : event ∈ (m.run steps).2) : event.kind?.isSome := by
  obtain ⟨m', s, hs, hevent⟩ := Steps.mem_run h
  cases s with
  | watch j e => exact Option.isSome_iff_exists.mpr ⟨j, kind?_of_mem_watch hevent⟩
  | notify | mark | restart | wait => exact (hsteps _ hs).elim

/-- Events change neither what is required nor the waits, nor make a directory synced. -/
theorem run_frame {steps : List MonitorStep} (hsteps : ∀ s ∈ steps, s.IsWatch) (m : Monitor) :
    (m.run steps).1.directory.readiness.required = m.directory.readiness.required ∧
      (m.run steps).1.directory.synced = m.directory.synced ∧
      (m.run steps).1.waiters = m.waiters := by
  induction steps generalizing m with
  | nil => exact ⟨rfl, rfl, rfl⟩
  | cons s steps ih =>
    cases s with
    | watch j e =>
      obtain ⟨hrequired, hsynced, hwaiters⟩ :=
        ih (fun s hs => hsteps s (List.mem_cons_of_mem _ hs)) (m.watch j e).1
      refine ⟨hrequired.trans (m.directory.required_performAll _),
        hsynced.trans (m.directory.synced_performAll _), hwaiters.trans ?_⟩
      show (m.setTracker j _).waiters = m.waiters
      cases j <;> rfl
    | notify | mark | restart | wait => exact (hsteps _ List.mem_cons_self).elim

/-! ## Interleavings of the same events -/

/-- **A monitor and its log have of each kind what the kind's own events make of the start.** -/
structure AsAlone (start : Monitor) (feeds : (k : Kind) → List (WatchEvent k)) (m : Monitor)
    (logged : List LogEvent) : Prop where
  tracker_eq : ∀ k, m.tracker k = (start.watchAll k (feeds k)).1.tracker k
  listed_eq : ∀ k, m.directory.readiness.listed.contains k
    = (start.watchAll k (feeds k)).1.directory.readiness.listed.contains k
  findByName?_eq : ∀ name, m.directory.findByName? name
    = (start.watchAll .pod (feeds .pod)).1.directory.findByName? name
  findByAddress?_eq : ∀ address, m.directory.findByAddress? address
    = (start.watchAll .pod (feeds .pod)).1.directory.findByAddress? address
  pods_eq : m.directory.stats.pods
    = (start.watchAll .pod (feeds .pod)).1.directory.stats.pods
  slices_eq : m.directory.stats.slices
    = (start.watchAll .endpointSlice (feeds .endpointSlice)).1.directory.stats.slices
  sliceAddresses_eq : m.directory.stats.sliceAddresses
    = (start.watchAll .endpointSlice (feeds .endpointSlice)).1.directory.stats.sliceAddresses
  logged_perm : ∀ k, (logged.filter (·.kind? = some k)).Perm (start.watchAll k (feeds k)).2
  /-- Every line is about a kind. -/
  logged_kind : ∀ event ∈ logged, event.kind?.isSome

/-- **Two monitors and their logs differ in nodes at most**: in the tracker of nodes, in their
mark, and in lines about nodes. -/
structure DifferInNodes (m quiet : Monitor) (logged loggedQuiet : List LogEvent) : Prop where
  eq_up_to_nodes : m = { quiet with
    nodes := m.nodes
    directory := { quiet.directory with
      readiness := { quiet.directory.readiness with
        listed := { quiet.directory.readiness.listed with
          node := m.directory.readiness.listed.node } } } }
  logged_perm : (logged.filter (·.kind? ≠ some .node)).Perm loggedQuiet

/-- A monitor has of each kind what the kind's own events make of the start. -/
theorem asAlone_run (start : Monitor) {feeds : (k : Kind) → List (WatchEvent k)}
    {steps : List MonitorStep} (h : Interleaves feeds steps) {logged : List LogEvent}
    (hlogged : logged.Perm (start.run steps).2) :
    AsAlone start feeds (start.run steps).1 logged := by
  have hkind : ∀ k, SameOn k (start.run steps).1 (start.watchAll k (feeds k)).1 ∧
      (start.run steps).2.filter (·.kind? = some k) = (start.watchAll k (feeds k)).2 := fun k => by
    rw [← h.2 k]
    exact sameOn_run h.1 (.refl k start)
  obtain ⟨hname, haddress, hpods⟩ :=
    Directory.podsOnly_eq_iff.mp ((hkind .pod).1.directory.podsOnly_eq rfl)
  exact {
    tracker_eq := fun k => (hkind k).1.tracker_eq
    listed_eq := fun k => (hkind k).1.directory.listed_eq
    findByName?_eq := fun name => congrArg (·[name]?) hname
    findByAddress?_eq := fun address => congrArg (·[address]?) haddress
    pods_eq := hpods
    slices_eq := (hkind .endpointSlice).1.directory.slices_eq rfl
    sliceAddresses_eq := (hkind .endpointSlice).1.directory.sliceAddresses_eq rfl
    logged_perm := fun k => (hkind k).2 ▸ hlogged.filter _
    logged_kind := fun event hmem => kind?_isSome_of_mem_run h.1 (hlogged.mem_iff.mp hmem) }

/-- Runs of interleavings that have the same events of a kind have the same of it in the end. -/
theorem sameOn_run_of_eq (start : Monitor) {feeds feeds' : (k : Kind) → List (WatchEvent k)}
    {steps steps' : List MonitorStep} (h : Interleaves feeds steps)
    (h' : Interleaves feeds' steps') (hk : feeds k = feeds' k) :
    SameOn k (start.run steps).1 (start.run steps').1 ∧
      (start.run steps).2.filter (·.kind? = some k)
        = (start.run steps').2.filter (·.kind? = some k) := by
  obtain ⟨hsame, hlogged⟩ := sameOn_run h.1 (.refl k start)
  obtain ⟨hsame', hlogged'⟩ := sameOn_run h'.1 (.refl k start)
  rw [h.2, hk, ← h'.2] at hsame hlogged
  exact ⟨hsame.trans hsame'.symm, hlogged.trans hlogged'.symm⟩

/-- Runs of interleavings of the same events come to the same. -/
theorem run_agree (start : Monitor) {feeds : (k : Kind) → List (WatchEvent k)}
    {steps steps' : List MonitorStep} (h : Interleaves feeds steps)
    (h' : Interleaves feeds steps') :
    (start.run steps).1 = (start.run steps').1 ∧
      (start.run steps).2.Perm (start.run steps').2 := by
  have hkind := fun k => sameOn_run_of_eq (k := k) start h h' rfl
  obtain ⟨hrequired, hsynced, hwaiters⟩ := run_frame h.1 start
  obtain ⟨hrequired', hsynced', hwaiters'⟩ := run_frame h'.1 start
  refine ⟨eq_of_sameOn (fun k => (hkind k).1) (hrequired.trans hrequired'.symm)
    (hsynced.trans hsynced'.symm) (hwaiters.trans hwaiters'.symm), ?_⟩
  refine perm_of_filter_kind (fun event hmem => ?_) fun k => .of_eq (hkind k).2
  rcases List.mem_append.mp hmem with hmem | hmem
  · exact kind?_isSome_of_mem_run h.1 hmem
  · exact kind?_isSome_of_mem_run h'.1 hmem

/-- Interleavings of the same events, with those of nodes and without them, differ in nodes at
most. -/
theorem differInNodes_run (start : Monitor) {feeds : (k : Kind) → List (WatchEvent k)}
    {steps quiet : List MonitorStep} (h : Interleaves feeds steps)
    (hquiet : Interleaves (withoutNodes feeds) quiet) :
    DifferInNodes (start.run steps).1 (start.run quiet).1 (start.run steps).2
      (start.run quiet).2 := by
  obtain ⟨hpods, hpodLines⟩ := sameOn_run_of_eq (k := .pod) start h hquiet rfl
  obtain ⟨hslices, hsliceLines⟩ := sameOn_run_of_eq (k := .endpointSlice) start h hquiet rfl
  obtain ⟨hrequired, hsynced, hwaiters⟩ := run_frame h.1 start
  obtain ⟨hrequired', hsynced', hwaiters'⟩ := run_frame hquiet.1 start
  refine ⟨eq_of_sameOn (fun k => ?_) (hrequired.trans hrequired'.symm)
    (hsynced.trans hsynced'.symm) (hwaiters.trans hwaiters'.symm), ?_⟩
  · cases k with
    | pod => exact ⟨hpods.tracker_eq, hpods.directory.1, hpods.directory.2, hpods.directory.3,
        nofun, nofun⟩
    | node => exact ⟨rfl, hpods.directory.1, rfl, nofun, nofun, nofun⟩
    | endpointSlice => exact ⟨hslices.tracker_eq, hslices.directory.1, hslices.directory.2, nofun,
        hslices.directory.4, hslices.directory.5⟩
  · refine perm_of_filter_kind (fun event hmem => ?_) fun k => ?_
    · rcases List.mem_append.mp hmem with hmem | hmem
      · exact kind?_isSome_of_mem_run h.1 (List.mem_of_mem_filter hmem)
      · exact kind?_isSome_of_mem_run hquiet.1 hmem
    · rw [filter_kind_filter_ne]
      cases k with
      | pod => exact .of_eq hpodLines
      | endpointSlice => exact .of_eq hsliceLines
      | node =>
        have hnone := (sameOn_run hquiet.1 (.refl .node start)).2
        rw [hquiet.2] at hnone
        exact .of_eq hnone.symm

/-- A history that brings nothing but events comes to what its run comes to. -/
theorem run_of_interleaving {required : KindSet} {logsNodeUpdates : Bool}
    {feeds : (k : Kind) → List (WatchEvent k)} {moves : List Move} {m : Monitor}
    (path : Steps.Path Move.Leads { directory := .new required logsNodeUpdates } moves m)
    (h : Interleaves feeds (moves.map Move.step)) :
    m = (run { directory := .new required logsNodeUpdates } (moves.map Move.step)).1 ∧
      (moves.flatMap Move.logged).Perm
        (run { directory := .new required logsNodeUpdates } (moves.map Move.step)).2 :=
  run_of_path path (fun _ hmem => (h.1 _ (List.mem_map_of_mem hmem)).sparesPods)
    (backed_new .empty false)

/-- **Whatever order the events of the kinds come in, they come to the same**: the same
monitor, and the same lines up to their order. It is made up of what each kind's own events
make of the start, and without the events of nodes only nodes would differ. -/
theorem interleavings_agree {required : KindSet} {logsNodeUpdates : Bool}
    {feeds : (k : Kind) → List (WatchEvent k)} {moves moves' : List Move} {m m' : Monitor}
    (path : Steps.Path Move.Leads { directory := .new required logsNodeUpdates } moves m)
    (path' : Steps.Path Move.Leads { directory := .new required logsNodeUpdates } moves' m')
    (h : Interleaves feeds (moves.map Move.step))
    (h' : Interleaves feeds (moves'.map Move.step)) :
    m = m' ∧ (moves.flatMap Move.logged).Perm (moves'.flatMap Move.logged) ∧
      AsAlone { directory := .new required logsNodeUpdates } feeds m
        (moves.flatMap Move.logged) ∧
      ∀ {rest : List Move} {quiet : Monitor},
        Steps.Path Move.Leads { directory := .new required logsNodeUpdates } rest quiet →
        Interleaves (withoutNodes feeds) (rest.map Move.step) →
        DifferInNodes m quiet (moves.flatMap Move.logged) (rest.flatMap Move.logged) := by
  obtain ⟨rfl, hlogged⟩ := run_of_interleaving path h
  obtain ⟨rfl, hlogged'⟩ := run_of_interleaving path' h'
  obtain ⟨hstate, hperm⟩ := run_agree { directory := .new required logsNodeUpdates } h h'
  refine ⟨hstate, (hlogged.trans hperm).trans hlogged'.symm, asAlone_run _ h hlogged, ?_⟩
  intro rest quiet hrest hquiet
  obtain ⟨rfl, hloggedQuiet⟩ := run_of_interleaving hrest hquiet
  obtain ⟨heq, hperm⟩ := differInNodes_run _ h hquiet
  exact ⟨heq, ((hlogged.filter _).trans hperm).trans hloggedQuiet.symm⟩

/-- Two pods, a node and a slice are listed in one order and in another, and one of the pods has
vanished when the pods are listed again. -/
theorem interleavings_agree_of_relisting :
    let pod (name : String) : Pod :=
      { metadata := { name := some name, ns := some "c" }, status := some { podIP := name } }
    let node : Node := { metadata := { name := some "n" } }
    let slice : EndpointSlice :=
      { metadata := { name := some "s" }, endpoints := [{ addresses := ["10.0.0.1", "10.0.0.2"] }] }
    let feeds : (k : Kind) → List (WatchEvent k)
      | .pod => [.listingStarted, .listed (pod "a"), .listed (pod "b"), .listingDone,
          .listingStarted, .listed (pod "b"), .listingDone]
      | .node => [.listed node, .listingDone]
      | .endpointSlice => [.changed slice]
    let steps : List MonitorStep := (feeds .pod).map (.watch .pod) ++
      (feeds .node).map (.watch .node) ++ (feeds .endpointSlice).map (.watch .endpointSlice)
    let steps' : List MonitorStep := (feeds .endpointSlice).map (.watch .endpointSlice) ++
      [.watch .node (.listed node)] ++ (feeds .pod).map (.watch .pod) ++
      [.watch .node .listingDone]
    let start : Monitor := { directory := .new Directory.defaultRequired false }
    Interleaves feeds steps ∧ Interleaves feeds steps' ∧
      (start.run steps).1 = (start.run steps').1 ∧ (start.run steps).2 ≠ (start.run steps').2 ∧
      (start.run steps').1.directory.stats = ⟨1, 1, 2, 1, 1, false⟩ := by
  intro pod node slice feeds steps steps' start
  have h : Interleaves feeds steps := ⟨by decide, fun k => by cases k <;> rfl⟩
  have h' : Interleaves feeds steps' := ⟨by decide, fun k => by cases k <;> rfl⟩
  obtain ⟨hstate, -⟩ := interleavings_agree (path_movesOf start steps) (path_movesOf start steps')
    (by rwa [step_movesOf]) (by rwa [step_movesOf])
  exact ⟨h, h', hstate, by decide +kernel, by decide +kernel⟩

end Monitor

/-! ## The watchers of a run -/

theorem filterMap_event?_map_watch (k : Kind) (events : List (WatchEvent k)) :
    (events.map (.watch k)).filterMap (MonitorStep.event? k) = events := by
  rw [List.filterMap_map]
  exact (List.filterMap_congr fun e _ => MonitorStep.event?_watch_self e).trans
    List.filterMap_some

/-- Where each kind has its turn once, its events are those of its turn. -/
theorem filterMap_event?_flatMap (feeds : (k : Kind) → List (WatchEvent k)) {kinds : List Kind}
    (hkinds : kinds.Nodup) (k : Kind) :
    (kinds.flatMap fun j => (feeds j).map (.watch j)).filterMap (MonitorStep.event? k)
      = if k ∈ kinds then feeds k else [] := by
  induction kinds with
  | nil => rfl
  | cons j kinds ih =>
    obtain ⟨hj, hrest⟩ := List.nodup_cons.mp hkinds
    rw [List.flatMap_cons, List.filterMap_append, ih hrest]
    by_cases hk : k = j
    · subst hk
      rw [filterMap_event?_map_watch, if_neg hj, if_pos List.mem_cons_self, List.append_nil]
    · have hother : ((feeds j).map (.watch j)).filterMap (MonitorStep.event? k) = [] := by
        rw [List.filterMap_map, List.filterMap_eq_nil_iff]
        exact fun e _ => MonitorStep.event?_watch_of_ne e (Ne.symm hk)
      simp [hother, hk]

theorem Settings.nodup_watchedKinds (settings : Settings) : settings.watchedKinds.Nodup := by
  unfold watchedKinds
  split <;> decide

namespace Monitor

theorem watchAll_eq_run (m : Monitor) (k : Kind) (events : List (WatchEvent k)) :
    m.watchAll k events = m.run (events.map (.watch k)) := by
  induction events generalizing m with
  | nil => rfl
  | cons e events ih =>
    show (((m.watch k e).1.watchAll k events).1,
      (m.watch k e).2 ++ ((m.watch k e).1.watchAll k events).2) = _
    rw [ih]
    rfl

end Monitor

namespace Run

/-- The events that a run feeds each tracker with. Kinds that are not watched have none. -/
def feedsOf (settings : Settings) (server : Server) (k : Kind) : List (WatchEvent k) :=
  if k ∈ settings.watchedKinds then (feed settings server k).events else []

/-- The steps of a run, one kind after the other. -/
def stepsOf (settings : Settings) (server : Server) : List MonitorStep :=
  settings.watchedKinds.flatMap fun k => (feed settings server k).events.map (.watch k)

/-- The steps of a run interleave the events that it feeds the trackers with. -/
theorem interleaves_stepsOf (settings : Settings) (server : Server) :
    Interleaves (feedsOf settings server) (stepsOf settings server) := by
  constructor
  · intro s hs
    obtain ⟨k, -, hs⟩ := List.mem_flatMap.mp hs
    obtain ⟨e, -, rfl⟩ := List.mem_map.mp hs
    trivial
  · exact fun k => filterMap_event?_flatMap _ settings.nodup_watchedKinds k

end Run

end PodDirectory
