import PodDirectory.Proofs.ListingAttempts
import PodDirectory.Proofs.WaitHistories
import PodDirectory.Proofs.WatcherTurns

/-!
# When the first listings of a run succeed

A run waits for the first listings of pods and of nodes. They succeed exactly if, under the path
of either kind, the answers to the requests for pages complete some attempt at a listing
(`Run.sync_iff_completesAttempt`). Nothing else matters: not what is watched, not whether the
objects can be observed, and not the endpoint slices, unless their watcher crashes.
-/

namespace PodDirectory

namespace Settings

/-- Pods and nodes are watched under any settings. -/
theorem mem_watchedKinds (settings : Settings) {k : Kind}
    (h : Directory.defaultRequired.contains k = true) : k ∈ settings.watchedKinds := by
  cases k with
  | pod | node => simp [watchedKinds]
  | endpointSlice => exact absurd h (by decide)

/-- Nodes are watched under one path, whatever namespace is. -/
theorem path_node (settings : Settings) : settings.path .node = Kind.node.path none := by
  unfold path Kind.path
  cases settings.watchedNamespace <;> rfl

end Settings

namespace Run

variable {settings : Settings} {server : Server}

/-- **A run goes on if no watcher crashes**, and then it has looked at the wait a last time. -/
theorem exists_against_eq_ok (h : crashes settings server = false) :
    ∃ r, against settings server = .ok r ∧ r.returned = false ∧
      r.sync = (fed settings server).directory.readiness.poll true ∧
      r.monitor = { fed settings server with
        directory := ((fed settings server).directory.conclude r.sync).1 } := by
  obtain ⟨hcrash, -⟩ | ⟨-, hok⟩ := against_eq settings server
  · rw [h] at hcrash
    cases hcrash
  · exact hok

theorem not_crashes_of_against {r : Run} (h : against settings server = .ok r) :
    crashes settings server = false := by
  obtain ⟨-, herror⟩ | ⟨hc, -⟩ := against_eq settings server
  · rw [herror] at h
    cases h
  · exact hc

/-- An event is a step of a run if its kind is watched and it is in the feed of the kind. -/
theorem watch_mem_stepsOf_iff {k : Kind} {e : WatchEvent k} :
    .watch k e ∈ stepsOf settings server ↔
      k ∈ settings.watchedKinds ∧ e ∈ (feed settings server k).events := by
  unfold stepsOf
  rw [List.mem_flatMap]
  constructor
  · rintro ⟨j, hj, hmem⟩
    obtain ⟨e', he', heq⟩ := List.mem_map.mp hmem
    cases heq
    exact ⟨hj, he'⟩
  · rintro ⟨hk, he⟩
    exact ⟨k, hk, List.mem_map_of_mem he⟩

/-- The monitor of a run is ready if the feeds of pods and nodes each have a listing that is
done. -/
theorem isReady_fed_iff : (fed settings server).directory.readiness.isReady = true ↔
    .listingDone ∈ (feed settings server .pod).events ∧
      .listingDone ∈ (feed settings server .node).events := by
  have hsteps : ∀ s ∈ stepsOf settings server, s.SparesMarks := by
    intro s hs
    have hwatch := (interleaves_stepsOf settings server).1 s hs
    cases s with
    | watch => trivial
    | notify | mark | restart | wait => exact hwatch.elim
  have hready := Monitor.isReady_iff_allListed
    (Monitor.path_run (start settings) (stepsOf settings server)) hsteps
  rw [fed_eq_run, hready]
  constructor
  · intro h
    exact ⟨(watch_mem_stepsOf_iff.mp (h .pod (by decide))).2,
      (watch_mem_stepsOf_iff.mp (h .node (by decide))).2⟩
  · rintro ⟨hpod, hnode⟩ k hk
    refine watch_mem_stepsOf_iff.mpr ⟨settings.mem_watchedKinds hk, ?_⟩
    cases k with
    | pod => exact hpod
    | node => exact hnode
    | endpointSlice => exact absurd hk (by decide)

/-- A feed has a listing that is done if the answers under the path of the kind complete an
attempt. -/
theorem listingDone_mem_feed_iff (hns : settings.hasPlainNamespace = true) (k : Kind) :
    .listingDone ∈ (feed settings server k).events ↔
      CompletesAttempt k (server.lists (settings.path k)) := by
  rw [feed_eq_read hns, Feed.listingDone_mem_read_iff, completesAttempt_iff]

/-- Feeding the trackers changes neither what is required nor the waits, nor does it make the
directory synced. -/
theorem fed_frame (settings : Settings) (server : Server) :
    (fed settings server).directory.readiness.required = Directory.defaultRequired ∧
      (fed settings server).directory.synced = false ∧ (fed settings server).waiters = {} := by
  rw [fed_eq_run]
  exact Monitor.run_frame (interleaves_stepsOf settings server).1 (start settings)

/-- **The wait of a run finds what the answers complete**: it succeeds if both paths complete
an attempt, and is given up otherwise, with the directory not synced. -/
theorem sync_of_against {r : Run} (hns : settings.hasPlainNamespace = true)
    (h : against settings server = .ok r) :
    (r.sync = .ready ↔
      CompletesAttempt .pod (server.lists (Kind.pod.path settings.watchedNamespace)) ∧
        CompletesAttempt .node (server.lists (Kind.node.path none))) ∧
    (r.sync ≠ .ready → r.sync = .cancelled ∧ r.monitor.directory.stats.synced = false) := by
  obtain ⟨r', hr', -, hsync, hmonitor⟩ := exists_against_eq_ok (not_crashes_of_against h)
  obtain rfl : r' = r := Except.ok.inj (hr'.symm.trans h)
  have hready : r'.sync = .ready ↔ (fed settings server).directory.readiness.isReady = true := by
    rw [hsync, Readiness.poll_eq_ready]
  refine ⟨?_, fun hne => ?_⟩
  · rw [hready, isReady_fed_iff, listingDone_mem_feed_iff hns, listingDone_mem_feed_iff hns,
      settings.path_node]
    rfl
  · have hcancelled : r'.sync = .cancelled := by
      rw [hsync, Readiness.poll_eq_cancelled]
      exact ⟨fun hr => hne (hready.mpr hr), rfl⟩
    have hsynced := (fed_frame settings server).2.1
    rw [hmonitor, hcancelled]
    -- giving up a wait leaves the directory as it is
    generalize fed settings server = m at hsynced
    exact ⟨rfl, hsynced⟩

/-- **The wait of a run succeeds exactly if the answers under the path of pods and under the
path of nodes each complete an attempt** at a listing. Otherwise it is given up, and the
directory is not synced. So it fails if one of the paths has no answers, and it does not depend
on anything else that the server answers, nor on the other settings. -/
theorem sync_iff_completesAttempt (hns : settings.hasPlainNamespace = true)
    (hcrash : crashes settings server = false) :
    ∃ r, against settings server = .ok r ∧
      (r.sync = .ready ↔
        CompletesAttempt .pod (server.lists (Kind.pod.path settings.watchedNamespace)) ∧
          CompletesAttempt .node (server.lists (Kind.node.path none))) ∧
      (r.sync ≠ .ready → r.sync = .cancelled ∧ r.monitor.directory.stats.synced = false) ∧
      (server.lists (Kind.pod.path settings.watchedNamespace) = [] ∨
        server.lists (Kind.node.path none) = [] → r.sync = .cancelled) ∧
      (∀ settings' server' r', against settings' server' = .ok r' →
        settings'.watchedNamespace = settings.watchedNamespace →
        server'.lists (Kind.pod.path settings.watchedNamespace)
          = server.lists (Kind.pod.path settings.watchedNamespace) →
        server'.lists (Kind.node.path none) = server.lists (Kind.node.path none) →
        r'.sync = r.sync) := by
  obtain ⟨r, hr, -⟩ := exists_against_eq_ok hcrash
  obtain ⟨hready, hcancelled⟩ := sync_of_against hns hr
  refine ⟨r, hr, hready, hcancelled, fun hempty => (hcancelled fun h => ?_).1, ?_⟩
  · obtain ⟨hpod, hnode⟩ := hready.mp h
    rcases hempty with hempty | hempty
    · rw [hempty] at hpod
      exact not_completesAttempt_nil _ hpod
    · rw [hempty] at hnode
      exact not_completesAttempt_nil _ hnode
  · intro settings' server' r' hr' hsame hpods hnodes
    have hns' : settings'.hasPlainNamespace = true := by
      unfold Settings.hasPlainNamespace
      rw [hsame]
      exact hns
    obtain ⟨hready', hcancelled'⟩ := sync_of_against hns' hr'
    rw [hsame, hpods, hnodes, ← hready] at hready'
    by_cases h : r.sync = .ready
    · rw [h, hready'.mpr h]
    · rw [(hcancelled h).1, (hcancelled' fun h' => h (hready'.mp h')).1]

/-- The pods of a namespace are listed at the third attempt. A page of the second one had come
before it failed, and the objects of the third one cannot be observed. -/
theorem sync_iff_completesAttempt_of_third :
    let settings : Settings := { watchedNamespace := some "a" }
    let server : Server := {
      lists := fun path =>
        if path = "/api/v1/namespaces/a/pods" then
          [.failure, .page [.obj []] true, .page [.null] false, .page [.obj []] true,
            .page [.obj []] false]
        else if path = "/api/v1/nodes" then [.page [] false]
        else []
      watches := fun _ => [] }
    settings.hasPlainNamespace = true ∧ crashes settings server = false ∧
      ∃ r, against settings server = .ok r ∧ r.sync = .ready := by
  intro settings server
  have hns : settings.hasPlainNamespace = true := by decide +kernel
  have hcrash : crashes settings server = false := by
    simp only [crashes, feed_eq_read hns]
    decide +kernel
  have hpods : CompletesAttempt .pod
      (server.lists (Kind.pod.path settings.watchedNamespace)) :=
    completesAttempt_iff.mpr (by decide +kernel)
  have hnodes : CompletesAttempt .node (server.lists (Kind.node.path none)) :=
    completesAttempt_iff.mpr (by decide +kernel)
  obtain ⟨r, hr, hready, -⟩ := sync_iff_completesAttempt hns hcrash
  exact ⟨hns, hcrash, r, hr, hready.mpr ⟨hpods, hnodes⟩⟩

end Run

end PodDirectory
