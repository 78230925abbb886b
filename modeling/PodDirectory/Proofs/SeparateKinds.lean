import PodDirectory.Proofs.FirstListings
import PodDirectory.Proofs.LoggedLines
import PodDirectory.Proofs.SliceCounts

/-!
# The kinds do not interfere

Three trackers write to one directory, and every one of them writes to places of its own: pods
to the two tables and their counter, endpoint slices to two counters, and each kind to its own
mark. Nodes are only logged. What is logged of a kind depends on these places alone, and on the
setting for nodes, which never changes.

`Monitor.SameOn` says that two monitors have the same of one kind. Two facts about a step tell
how the kinds stand to each other. A step of a kind does the same to any two monitors that have
the same of it, and logs the same (`Monitor.SameOn.watch`). A step of another kind leaves what a
monitor has of it (`Monitor.sameOn_watch_of_ne`).
-/

namespace PodDirectory

/-! ## Lines and effects of one kind -/

/-- The kind that a line of the log is about, if it is about one. -/
def LogEvent.kind? : LogEvent → Option Kind
  | kindMarked k | objectDropped k _ | listingStarted k | vanished k _ | firstListing k _ => some k
  | podAdded _ | podUpdated _ _ | podDeleted _ | addressTakenOver _ _ _ => some .pod
  | nodeListed _ | nodeAdded _ | nodeUpdated _ | nodeDeleted _ => some .node
  | sliceAdded _ | sliceDeleted _ => some .endpointSlice
  | updateDropped _ _ | syncComplete _ | syncFailed _ | watchersStarted _ _ => none
  | watchFailed _ | feedOver _ | watcherStopped => none

/-- **Whether an effect is about a kind** and about no other. -/
def Effect.BelongsTo (k : Kind) : Effect → Prop
  | .log event => event.kind? = some k
  | .notify _ notice => notice.IsOfKind k
  | .markListed j => j = k

/-- What is logged of a notice of one kind is about this kind. -/
theorem Notice.Logs.kind?_eq {n : Notice} {event : LogEvent} (h : n.Logs event) {k : Kind}
    (hn : n.IsOfKind k) : event.kind? = some k := by
  cases h with
  | podUpdated | updatedTakesOver | nodeUpdated => exact congrArg some hn.1
  | updateDropped hne => exact absurd (hn.1.trans hn.2.symm) hne
  | _ => exact congrArg some hn

/-- What is logged of an effect of one kind is about this kind. -/
theorem Effect.Logs.kind?_eq {e : Effect} {event : LogEvent} (h : e.Logs event) {k : Kind}
    (he : e.BelongsTo k) : event.kind? = some k := by
  cases h with
  | log => exact he
  | notify ref h => exact h.kind?_eq he
  | markListed j => exact congrArg some he

namespace Tracker

variable {k : Kind} {t t' : Tracker k} {e : WatchEvent k} {effects : List Effect}

/-- **Whatever a tracker wants done is about its kind.** -/
theorem Outcome.belongsTo (h : Outcome t e t' effects) :
    ∀ effect ∈ effects, effect.BelongsTo k := by
  intro effect hmem
  cases h.causes hmem with
  | started | dropped | vanished | firstListing | marked => rfl
  | delivered => exact isOfKind_noticeOf ..
  | deleted | forgotten => exact Observation.kind_ofRecord k _

end Tracker

/-! ## Directories -/

namespace Directory

/-- **Two directories have the same of a kind.** -/
structure SameOn (k : Kind) (d d' : Directory) : Prop where
  logsNodeUpdates_eq : d.logsNodeUpdates = d'.logsNodeUpdates
  listed_eq : d.readiness.listed.contains k = d'.readiness.listed.contains k
  podsOnly_eq : k = .pod → d.podsOnly = d'.podsOnly
  slices_eq : k = .endpointSlice → d.slices = d'.slices
  sliceAddresses_eq : k = .endpointSlice → d.sliceAddresses = d'.sliceAddresses

variable {k j : Kind} {d d' d'' : Directory}

theorem SameOn.refl (k : Kind) (d : Directory) : SameOn k d d :=
  ⟨rfl, rfl, fun _ => rfl, fun _ => rfl, fun _ => rfl⟩

theorem SameOn.symm (h : SameOn k d d') : SameOn k d' d :=
  ⟨h.logsNodeUpdates_eq.symm, h.listed_eq.symm, fun hk => (h.podsOnly_eq hk).symm,
    fun hk => (h.slices_eq hk).symm, fun hk => (h.sliceAddresses_eq hk).symm⟩

theorem SameOn.trans (h : SameOn k d d') (h' : SameOn k d' d'') : SameOn k d d'' :=
  ⟨h.logsNodeUpdates_eq.trans h'.logsNodeUpdates_eq, h.listed_eq.trans h'.listed_eq,
    fun hk => (h.podsOnly_eq hk).trans (h'.podsOnly_eq hk),
    fun hk => (h.slices_eq hk).trans (h'.slices_eq hk),
    fun hk => (h.sliceAddresses_eq hk).trans (h'.sliceAddresses_eq hk)⟩

/-- What a directory has of pods is the two tables and the counter. -/
theorem podsOnly_eq_iff : d.podsOnly = d'.podsOnly ↔
    d.byName = d'.byName ∧ d.byAddress = d'.byAddress ∧ d.pods = d'.pods := by
  simp [podsOnly]

/-- **The kinds are all there is to a directory**, apart from what is required and whether
somebody has waited with success. -/
theorem eq_of_sameOn (h : ∀ k, SameOn k d d')
    (hrequired : d.readiness.required = d'.readiness.required) (hsynced : d.synced = d'.synced) :
    d = d' := by
  have hlisted : d.readiness.listed = d'.readiness.listed :=
    KindSet.ext_contains fun k => (h k).listed_eq
  have hready : d.readiness = d'.readiness := by
    cases hd : d.readiness
    cases hd' : d'.readiness
    simp_all
  obtain ⟨hname, haddress, hpods⟩ := podsOnly_eq_iff.mp ((h .pod).podsOnly_eq rfl)
  exact Directory.ext hready (h .pod).logsNodeUpdates_eq hname haddress hpods
    ((h .endpointSlice).slices_eq rfl) ((h .endpointSlice).sliceAddresses_eq rfl) hsynced

theorem logsNodeUpdates_apply (d : Directory) (n : Notice) :
    (d.apply n).1.logsNodeUpdates = d.logsNodeUpdates := by
  have hcount : ∀ slices addresses : Int64,
      (d.countSlices slices addresses).logsNodeUpdates = d.logsNodeUpdates := fun _ _ => rfl
  cases n with
  | added what initial => cases what <;> rfl
  | updated old new => cases old <;> cases new <;> rfl
  | deleted what =>
    cases what with
    | pod | node => rfl
    | slice s => exact hcount _ _

theorem logsNodeUpdates_performAll (d : Directory) (effects : List Effect) :
    (d.performAll effects).1.logsNodeUpdates = d.logsNodeUpdates := by
  refine Steps.run_keeps (P := fun d' : Directory => d'.logsNodeUpdates = d.logsNodeUpdates)
    (fun d' e h => ?_) rfl effects
  cases e with
  | log event => exact h
  | notify ref notice => exact (d'.logsNodeUpdates_apply notice).trans h
  | markListed k => exact h

/-! ### Effects of the kind -/

/-- What is logged when a pod is upserted is told by the pods. -/
theorem takeover_vacated_eq (h : d.podsOnly = d'.podsOnly) (r : PodRecord) :
    (d.vacated r).takeover r = (d'.vacated r).takeover r := by
  obtain ⟨hname, haddress, -⟩ := podsOnly_eq_iff.mp h
  simp only [vacated, hname, haddress]

/-- A notice does the same to directories that have the same of its kind. -/
theorem SameOn.apply (h : SameOn k d d') {n : Notice} (hn : n.IsOfKind k) :
    SameOn k (d.apply n).1 (d'.apply n).1 ∧ (d.apply n).2 = (d'.apply n).2 := by
  refine ⟨⟨?_, ?_, fun hk => ?_, fun hk => ?_, fun hk => ?_⟩, ?_⟩
  · rw [logsNodeUpdates_apply, logsNodeUpdates_apply, h.logsNodeUpdates_eq]
  · rw [readiness_apply, readiness_apply, h.listed_eq]
  · rw [podsOnly_apply, podsOnly_apply, h.podsOnly_eq hk]
  · rw [(d.slices_apply n).1, (d'.slices_apply n).1, h.slices_eq hk]
  · rw [(d.slices_apply n).2, (d'.slices_apply n).2, h.sliceAddresses_eq hk]
  · cases n with
    | added what initial =>
      cases what with
      | pod r =>
        have htakeover := takeover_vacated_eq (h.podsOnly_eq hn.symm) r
        exact congrArg ((if initial then [] else [LogEvent.podAdded r]) ++ ·) htakeover
      | node | slice => rfl
    | updated old new =>
      cases old with
      | pod old =>
        cases new with
        | pod r =>
          have htakeover := takeover_vacated_eq (h.podsOnly_eq hn.1.symm) r
          exact congrArg (LogEvent.podUpdated old r :: ·) htakeover
        | node | slice => rfl
      | node old =>
        cases new with
        | node r =>
          show (if d.logsNodeUpdates then _ else _) = if d'.logsNodeUpdates then _ else _
          rw [h.logsNodeUpdates_eq]
        | pod | slice => rfl
      | slice old => cases new <;> rfl
    | deleted what => cases what <;> rfl

/-- **An effect does the same to directories that have the same of its kind.** -/
theorem SameOn.perform (h : SameOn k d d') {e : Effect} (he : e.BelongsTo k) :
    SameOn k (d.perform e).1 (d'.perform e).1 ∧ (d.perform e).2 = (d'.perform e).2 := by
  cases e with
  | log event => exact ⟨h, rfl⟩
  | notify ref notice => exact h.apply he
  | markListed j =>
    obtain rfl : j = k := he
    refine ⟨⟨h.logsNodeUpdates_eq, ?_, h.podsOnly_eq, h.slices_eq, h.sliceAddresses_eq⟩, ?_⟩
    · show (d.readiness.mark j).1.listed.contains j = (d'.readiness.mark j).1.listed.contains j
      rw [Readiness.contains_listed_mark, Readiness.contains_listed_mark, h.listed_eq]
    · show (d.readiness.mark j).2.2 = (d'.readiness.mark j).2.2
      unfold Readiness.mark
      rw [h.listed_eq]
      split <;> rfl

theorem SameOn.performAll (h : SameOn k d d') {effects : List Effect}
    (heffects : ∀ e ∈ effects, e.BelongsTo k) :
    SameOn k (d.performAll effects).1 (d'.performAll effects).1 ∧
      (d.performAll effects).2 = (d'.performAll effects).2 := by
  induction effects generalizing d d' with
  | nil => exact ⟨h, rfl⟩
  | cons e effects ih =>
    obtain ⟨hfirst, hlogged⟩ := h.perform (heffects e List.mem_cons_self)
    obtain ⟨hrest, hlogged'⟩ := ih hfirst fun e' he' => heffects e' (List.mem_cons_of_mem e he')
    exact ⟨hrest, congrArg₂ (· ++ ·) hlogged hlogged'⟩

/-! ### Effects of another kind -/

/-- A notice about another kind adds nothing to the counters of slices. -/
theorem gain_of_isOfKind (hk : k ≠ .endpointSlice) {n : Notice} (h : n.IsOfKind k)
    (weight : SliceRecord → Nat) : n.gain weight = 0 := by
  unfold Notice.gain
  split
  · exact absurd h.symm hk
  · exact absurd h.2.symm hk
  · exact absurd h.symm hk
  · rfl

/-- **An effect of one kind leaves what a directory has of another.** -/
theorem sameOn_perform_of_ne {e : Effect} (he : e.BelongsTo j) (hne : j ≠ k) :
    SameOn k (d.perform e).1 d := by
  cases e with
  | log event => exact .refl k d
  | notify ref notice =>
    have hnotice : notice.IsOfKind j := he
    refine ⟨d.logsNodeUpdates_apply notice, ?_, fun hk => ?_, fun hk => ?_, fun hk => ?_⟩
    · show (d.apply notice).1.readiness.listed.contains k = _
      rw [readiness_apply]
    · show (d.apply notice).1.podsOnly = _
      rw [podsOnly_apply, Notice.podCall?_of_isOfKind (hk ▸ hne) hnotice]
      rfl
    · show (d.apply notice).1.slices = _
      rw [(d.slices_apply notice).1, gain_of_isOfKind (hk ▸ hne) hnotice, Int64.add_zero]
    · show (d.apply notice).1.sliceAddresses = _
      rw [(d.slices_apply notice).2, gain_of_isOfKind (hk ▸ hne) hnotice, Int64.add_zero]
  | markListed i =>
    obtain rfl : i = j := he
    refine ⟨rfl, ?_, fun _ => rfl, fun _ => rfl, fun _ => rfl⟩
    show (d.readiness.mark i).1.listed.contains k = _
    rw [Readiness.contains_listed_mark, decide_eq_false hne.symm, Bool.false_or]

theorem sameOn_performAll_of_ne {effects : List Effect}
    (heffects : ∀ e ∈ effects, e.BelongsTo j) (hne : j ≠ k) :
    SameOn k (d.performAll effects).1 d := by
  induction effects generalizing d with
  | nil => exact .refl k d
  | cons e effects ih =>
    have hrest := ih (d := (d.perform e).1) fun e' he' => heffects e' (List.mem_cons_of_mem e he')
    exact hrest.trans (sameOn_perform_of_ne (heffects e List.mem_cons_self) hne)

/-! ### Lines of the kind -/

/-- **What is logged of effects of one kind is about this kind.** -/
theorem kind?_of_mem_performAll {effects : List Effect} (heffects : ∀ e ∈ effects, e.BelongsTo k)
    {event : LogEvent} (h : event ∈ (d.performAll effects).2) : event.kind? = some k := by
  obtain ⟨effect, hmem, hlogs⟩ := logs_of_mem_performAll h
  exact hlogs.kind?_eq (heffects effect hmem)

end Directory

/-! ## Monitors -/

namespace Monitor

/-- **Two monitors have the same of a kind**: its tracker, and what the directory has of it. -/
structure SameOn (k : Kind) (m m' : Monitor) : Prop where
  tracker_eq : m.tracker k = m'.tracker k
  directory : m.directory.SameOn k m'.directory

variable {k j : Kind} {m m' m'' : Monitor}

theorem SameOn.refl (k : Kind) (m : Monitor) : SameOn k m m := ⟨rfl, .refl k _⟩

theorem SameOn.symm (h : SameOn k m m') : SameOn k m' m :=
  ⟨h.tracker_eq.symm, h.directory.symm⟩

theorem SameOn.trans (h : SameOn k m m') (h' : SameOn k m' m'') : SameOn k m m'' :=
  ⟨h.tracker_eq.trans h'.tracker_eq, h.directory.trans h'.directory⟩

/-- **The kinds are all there is to a monitor**, apart from what is required and from waits. -/
theorem eq_of_sameOn (h : ∀ k, SameOn k m m')
    (hrequired : m.directory.readiness.required = m'.directory.readiness.required)
    (hsynced : m.directory.synced = m'.directory.synced) (hwaiters : m.waiters = m'.waiters) :
    m = m' := by
  have hdirectory : m.directory = m'.directory :=
    Directory.eq_of_sameOn (fun k => (h k).directory) hrequired hsynced
  have hpods := (h .pod).tracker_eq
  have hnodes := (h .node).tracker_eq
  have hslices := (h .endpointSlice).tracker_eq
  cases m
  cases m'
  simp only [tracker] at hpods hnodes hslices
  simp only at hdirectory hwaiters
  rw [hdirectory, hpods, hnodes, hslices, hwaiters]

theorem tracker_watch (m : Monitor) (e : WatchEvent k) :
    (m.watch k e).1.tracker k = ((m.tracker k).step e).1 := by
  cases k <;> rfl

/-- **An event of a kind does the same to monitors that have the same of the kind**, and the
same is logged. -/
theorem SameOn.watch (h : SameOn k m m') (e : WatchEvent k) :
    SameOn k (m.watch k e).1 (m'.watch k e).1 ∧ (m.watch k e).2 = (m'.watch k e).2 := by
  have hbelongs := (Tracker.outcome_step (m.tracker k) e).belongsTo
  obtain ⟨hdirectory, hlogged⟩ := h.directory.performAll hbelongs
  refine ⟨⟨?_, ?_⟩, ?_⟩
  · rw [tracker_watch, tracker_watch, h.tracker_eq]
  · show Directory.SameOn k _ (m'.directory.performAll ((m'.tracker k).step e).2).1
    rw [← h.tracker_eq]
    exact hdirectory
  · show _ = (m'.directory.performAll ((m'.tracker k).step e).2).2
    rw [← h.tracker_eq]
    exact hlogged

theorem SameOn.watchAll (h : SameOn k m m') (events : List (WatchEvent k)) :
    SameOn k (m.watchAll k events).1 (m'.watchAll k events).1 := by
  induction events generalizing m m' with
  | nil => exact h
  | cons e events ih => exact ih (h.watch e).1

/-- **An event of one kind leaves what a monitor has of another.** -/
theorem sameOn_watch_of_ne (m : Monitor) (e : WatchEvent j) (hne : j ≠ k) :
    SameOn k (m.watch j e).1 m where
  tracker_eq := by
    show ({ m.setTracker j _ with directory := _ } : Monitor).tracker k = _
    cases j <;> cases k <;> first | rfl | exact absurd rfl hne
  directory := Directory.sameOn_performAll_of_ne
    (Tracker.outcome_step (m.tracker j) e).belongsTo hne

/-- What is logged at an event of a kind is about this kind. -/
theorem kind?_of_mem_watch {e : WatchEvent k} {event : LogEvent} (h : event ∈ (m.watch k e).2) :
    event.kind? = some k :=
  Directory.kind?_of_mem_performAll (Tracker.outcome_step (m.tracker k) e).belongsTo h

end Monitor

end PodDirectory
