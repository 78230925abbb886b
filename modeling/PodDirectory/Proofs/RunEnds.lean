import PodDirectory.Proofs.CrashesRead
import PodDirectory.Proofs.FeedLaws
import PodDirectory.Proofs.RunSync

/-!
# What ends a run

A run returns when one of its watchers comes to its end, and always with an error. The feeds from
a server are never over, so that a watcher comes to its end by a crash only, which is when it
reads an answer that is a crash. Nothing else ends a run: not failures, not items that cannot be
decoded, not paths without answers, not watching that breaks off, and not crashes that nobody
reads.

The watchers run side by side, and which of them gets ahead is not settled. An order of turns
decides when a run returns, but not whether: no order ends a run that goes on, and every order
that lets each watcher get through its feed ends a run that ends (`Run.endsByCrash_of_plain`).
-/

namespace PodDirectory

namespace Run

variable {settings : Settings} {server : Server} {order : List Kind}

/-! ## Ending -/

/-- Whether this is an error of this wording. -/
def EndsWith {α : Type} (message : String) (result : Except RunError α) : Prop :=
  ∃ e, result = .error e ∧ e.message = message

/-- **Whether some watcher reads a crash**: that of pods, that of nodes, which are never those of
one namespace, or that of endpoint slices, if they are watched. -/
def SomeReadsCrash (settings : Settings) (server : Server) : Prop :=
  let pods := Kind.pod.path settings.watchedNamespace
  let nodes := Kind.node.path none
  let slices := Kind.endpointSlice.path settings.watchedNamespace
  ReadsCrash .pod (server.lists pods) (server.watches pods) ∨
    ReadsCrash .node (server.lists nodes) (server.watches nodes) ∨
    settings.watchEndpointSlices = true ∧
      ReadsCrash .endpointSlice (server.lists slices) (server.watches slices)

/-- What a run has returned when the watchers that the settings name have taken turns in an
order: `none` as long as it goes on. -/
def inTurns (settings : Settings) (server : Server) (order : List Kind) :
    Option (Except RunError Unit) :=
  ((launch settings server).run order).1.result

/-- The first turns of an order that goes on for ever. -/
def firstTurns (turns : Nat → Kind) (n : Nat) : List Kind :=
  (List.range n).map turns

/-- **Turns that leave no watcher out**: each of them has a turn again and again. -/
def LeavesNoneOut (settings : Settings) (turns : Nat → Kind) : Prop :=
  ∀ k ∈ settings.watchedKinds, ∀ n, ∃ m, n < (firstTurns turns m).count k

/-- **A crash that is read ends a run, and nothing else does.** -/
structure EndsByCrash (settings : Settings) (server : Server) : Prop where
  /-- **In whatever order the watchers take their turns**, a run has returned exactly if some
  watcher reads a crash and has got there, and then it has returned this error. -/
  inTurns_eq_some_iff {order : List Kind} {result : Except RunError Unit} :
    inTurns settings server order = some result ↔
      EndsWith "watcher task failed" result ∧ ∃ k ∈ settings.watchedKinds,
        ReadsCrash k (server.lists (settings.path k)) (server.watches (settings.path k)) ∧
          (feed settings server k).items.length < order.count k
  /-- It never returns without an error. -/
  inTurns_ne_ok (order : List Kind) : inTurns settings server order ≠ some (.ok ())
  /-- When it has returned, it has returned for good. -/
  inTurns_append {order : List Kind} {result : Except RunError Unit}
    (h : inTurns settings server order = some result) (more : List Kind) :
    inTurns settings server (order ++ more) = some result
  /-- Where the watchers take turns for ever and none of them is left out, a run returns exactly if
  some watcher reads a crash. -/
  returns_iff {turns : Nat → Kind} (fair : LeavesNoneOut settings turns) :
    (∃ n, (inTurns settings server (firstTurns turns n)).isSome) ↔
      SomeReadsCrash settings server
  /-- A run that is looked at when everything is quiet has ended with an error exactly if some
  watcher reads a crash. -/
  ends_iff : EndsWith "watcher task failed" (against settings server) ↔
    SomeReadsCrash settings server
  /-- There is no other error. -/
  message {e : RunError} (h : against settings server = .error e) :
    e.message = "watcher task failed"
  /-- And otherwise it has not returned. -/
  not_returned {r : Run} (h : against settings server = .ok r) : r.returned = false
  /-- If no watcher reads a crash, a run goes on in every order, until everything is quiet. -/
  goes_on (h : ¬ SomeReadsCrash settings server) :
    (∀ order, inTurns settings server order = none) ∧ ∃ r, against settings server = .ok r
  /-- Without a crash under the paths that are listed it goes on, whatever else is answered. -/
  goes_on_of_no_crash
    (h : ∀ k ∈ settings.watchedKinds, .crash ∉ server.lists (settings.path k)) :
    (∀ order, inTurns settings server order = none) ∧ ∃ r, against settings server = .ok r
  /-- What is answered under other paths does not matter. -/
  other_paths {server' : Server}
    (h : ∀ k ∈ settings.watchedKinds,
      server'.lists (settings.path k) = server.lists (settings.path k) ∧
        server'.watches (settings.path k) = server.watches (settings.path k)) :
    EndsWith "watcher task failed" (against settings server') ↔
      EndsWith "watcher task failed" (against settings server)
  /-- Whatever library it is that lists and watches, its laws are all that this goes by. -/
  feed_eq {k : Kind} {source : FeedSource k} (h : source.IsLawful) :
    feed settings server k =
      source.start (server.lists (settings.path k)) (server.watches (settings.path k))

/-- One error only has this wording. -/
theorem endsWith_iff {α : Type} {result : Except RunError α} :
    EndsWith "watcher task failed" result ↔ result = .error .watcherFailed := by
  constructor
  · rintro ⟨e, rfl, hmessage⟩
    cases e with
    | watcherFailed => rfl
    | watcherStopped | noWatchers => exact absurd hmessage (by decide)
  · rintro rfl
    exact ⟨_, rfl, rfl⟩

/-- A watcher crashes if it reads a crash under the path of its kind. -/
theorem ending_feed_eq_crashed_iff (hns : settings.hasPlainNamespace = true) (k : Kind) :
    (feed settings server k).ending = .crashed ↔
      ReadsCrash k (server.lists (settings.path k)) (server.watches (settings.path k)) := by
  rw [feed_eq_read hns, Feed.ending_read_eq_crashed_iff]

theorem someReadsCrash_iff_exists : SomeReadsCrash settings server ↔
    ∃ k ∈ settings.watchedKinds,
      ReadsCrash k (server.lists (settings.path k)) (server.watches (settings.path k)) := by
  unfold SomeReadsCrash
  rw [← settings.path_node]
  cases hslices : settings.watchEndpointSlices <;>
    simp [Settings.watchedKinds, Settings.path, hslices]

/-! ## Turn by turn -/

section Plain

variable (hns : settings.hasPlainNamespace = true)
include hns

/-- **An order decides when a run returns, but not what.** -/
theorem inTurns_eq_some_iff_of_plain {result : Except RunError Unit} :
    inTurns settings server order = some result ↔
      EndsWith "watcher task failed" result ∧ ∃ k ∈ settings.watchedKinds,
        ReadsCrash k (server.lists (settings.path k)) (server.watches (settings.path k)) ∧
          (feed settings server k).items.length < order.count k := by
  unfold inTurns
  rw [result_launch_eq_some_iff, endsWith_iff]
  simp only [ending_feed_eq_crashed_iff hns]

/-- **Turns that leave no watcher out come to the end of a run** if some watcher reads a crash. -/
theorem exists_inTurns_isSome {turns : Nat → Kind} (fair : LeavesNoneOut settings turns)
    (h : SomeReadsCrash settings server) :
    ∃ n, (inTurns settings server (firstTurns turns n)).isSome := by
  obtain ⟨k, hk, hread⟩ := someReadsCrash_iff_exists.mp h
  obtain ⟨n, hn⟩ := fair k hk (feed settings server k).items.length
  exact ⟨n, Option.isSome_iff_exists.mpr ⟨.error .watcherFailed,
    (inTurns_eq_some_iff_of_plain hns).mpr ⟨endsWith_iff.mpr rfl, k, hk, hread, hn⟩⟩⟩

/-! ## When everything is quiet -/

/-- **A run ends exactly if some watcher reads a crash.** -/
theorem crashes_iff_someReadsCrash :
    crashes settings server = true ↔ SomeReadsCrash settings server := by
  rw [crashes_iff_exists, someReadsCrash_iff_exists]
  simp only [ending_feed_eq_crashed_iff hns]

/-- A run goes on in every order if no watcher reads a crash. -/
theorem goes_on_of_not_someReadsCrash (h : ¬ SomeReadsCrash settings server) :
    (∀ order, inTurns settings server order = none) ∧ ∃ r, against settings server = .ok r := by
  constructor
  · refine fun order => Option.eq_none_iff_forall_ne_some.mpr fun result hresult => h ?_
    obtain ⟨-, k, hk, hread, -⟩ := (inTurns_eq_some_iff_of_plain hns).mp hresult
    exact someReadsCrash_iff_exists.mpr ⟨k, hk, hread⟩
  · have hquiet : crashes settings server = false := by
      rwa [← Bool.not_eq_true, crashes_iff_someReadsCrash hns]
    obtain ⟨r, hr, -⟩ := exists_against_eq_ok hquiet
    exact ⟨r, hr⟩

theorem endsWith_against_iff :
    EndsWith "watcher task failed" (against settings server) ↔
      SomeReadsCrash settings server := by
  rw [endsWith_iff, ← crashes_iff_someReadsCrash hns]
  obtain ⟨hcrash, herror⟩ | ⟨hcrash, r, hr, -⟩ := against_eq settings server
  · exact iff_of_true herror hcrash
  · refine iff_of_false (fun herror => ?_) (by rw [hcrash]; exact Bool.false_ne_true)
    rw [herror] at hr
    cases hr

/-- **One watcher that reads a crash ends a run, and nothing else does**, as long as the name of
the watched namespace stands for itself in a path, as every well-formed name does. -/
theorem endsByCrash_of_plain : EndsByCrash settings server where
  inTurns_eq_some_iff := inTurns_eq_some_iff_of_plain hns
  inTurns_ne_ok order := Watchers.result_ne_ok _
  inTurns_append {order _} h more := by
    unfold inTurns
    rw [Watchers.run_append]
    exact Watchers.result_run_of_some h more
  returns_iff fair := by
    refine ⟨fun ⟨n, hn⟩ => ?_, exists_inTurns_isSome hns fair⟩
    by_contra hno
    rw [(goes_on_of_not_someReadsCrash hns hno).1] at hn
    cases hn
  ends_iff := endsWith_against_iff hns
  message {e} h := by
    obtain ⟨-, herror⟩ | ⟨-, r, hr, -⟩ := against_eq settings server
    · obtain rfl : e = .watcherFailed := Except.error.inj (h.symm.trans herror)
      rfl
    · rw [h] at hr
      cases hr
  not_returned {r} h := by
    obtain ⟨r', hr', hreturned, -⟩ := exists_against_eq_ok (not_crashes_of_against h)
    obtain rfl : r' = r := Except.ok.inj (hr'.symm.trans h)
    exact hreturned
  goes_on := goes_on_of_not_someReadsCrash hns
  goes_on_of_no_crash h := by
    refine goes_on_of_not_someReadsCrash hns fun hcrash => ?_
    obtain ⟨k, hk, hread⟩ := someReadsCrash_iff_exists.mp hcrash
    exact h k hk hread.mem
  other_paths {server'} h := by
    rw [endsWith_against_iff hns, endsWith_against_iff hns, someReadsCrash_iff_exists,
      someReadsCrash_iff_exists]
    refine exists_congr fun k => and_congr_right fun hk => ?_
    rw [(h k hk).1, (h k hk).2]
  feed_eq h := by rw [feed_eq_read hns, h.start_eq_read]

end Plain

/-- Turns of all kinds one after the other, for ever. -/
def inCircle (n : Nat) : Kind :=
  if n % 3 = 0 then .pod else if n % 3 = 1 then .node else .endpointSlice

theorem count_inCircle (k : Kind) (n : Nat) : (firstTurns inCircle (3 * n)).count k = n := by
  induction n with
  | zero => rfl
  | succ n ih =>
    have hcircle : firstTurns inCircle (3 * (n + 1))
        = firstTurns inCircle (3 * n) ++ [.pod, .node, .endpointSlice] := by
      simp [firstTurns, Nat.mul_add, List.range_succ, inCircle]
    rw [hcircle, List.count_append, ih]
    cases k <;> rfl

/-- In a circle everyone has a turn again and again. -/
theorem leavesNoneOut_inCircle (settings : Settings) : LeavesNoneOut settings inCircle :=
  fun k _ n => ⟨3 * (n + 1), by rw [count_inCircle]; exact Nat.lt_succ_self n⟩

/-- The watcher of pods reads a crash when it lists them again, after two attempts that failed and
one that took two pages. A server that never breaks the watching off keeps it from doing so. The
crashes under other paths are read by nobody. -/
theorem endsByCrash_of_second_listing :
    let settings : Settings := { watchedNamespace := some "a", watchEndpointSlices := false }
    let server (pods : List (List WatchMessage)) : Server := {
      lists := fun path =>
        if path = "/api/v1/namespaces/a/pods" then
          [.failure, .page [.null] false, .page [] true, .page [] false, .crash]
        else if path = "/api/v1/nodes" then [.page [] false]
        else [.crash]
      watches := fun path => if path = "/api/v1/namespaces/a/pods" then pods else [] }
    let gone : WatchMessage := .error (.obj [("status", .str "Failure"), ("code", .int 410)])
    settings.hasPlainNamespace = true ∧
      EndsWith "watcher task failed" (against settings (server [[.bookmark], [gone]])) ∧
      inTurns settings (server [[.bookmark], [gone]]) (List.replicate 12 .pod) ≠ none ∧
      (∃ n, (inTurns settings (server [[.bookmark], [gone]]) (firstTurns inCircle n)).isSome) ∧
      (∀ order, inTurns settings (server [[.bookmark], []]) order = none) ∧
      ∃ r, against settings (server [[.bookmark], []]) = .ok r := by
  intro settings server gone
  have hns : settings.hasPlainNamespace = true := by decide +kernel
  have hpods : ReadsCrash .pod
      ((server [[.bookmark], [gone]]).lists (Kind.pod.path settings.watchedNamespace))
      ((server [[.bookmark], [gone]]).watches (Kind.pod.path settings.watchedNamespace)) :=
    Feed.ending_read_eq_crashed_iff.mp (by decide +kernel)
  have hquiet : ¬ SomeReadsCrash settings (server [[.bookmark], []]) := by
    unfold SomeReadsCrash
    simp only [← Feed.ending_read_eq_crashed_iff]
    decide +kernel
  have ends : EndsByCrash settings (server [[.bookmark], [gone]]) := endsByCrash_of_plain hns
  have goes : EndsByCrash settings (server [[.bookmark], []]) := endsByCrash_of_plain hns
  obtain ⟨hturns, r, hr⟩ := goes.goes_on hquiet
  refine ⟨hns, ends.ends_iff.mpr (Or.inl hpods), ?_,
    (ends.returns_iff (leavesNoneOut_inCircle settings)).mpr (Or.inl hpods), hturns, r, hr⟩
  have hlength : (feed settings (server [[.bookmark], [gone]]) .pod).items.length < 12 := by
    rw [feed_eq_read hns]
    decide +kernel
  have hreturned := ends.inTurns_eq_some_iff.mpr
    ⟨⟨.watcherFailed, rfl, rfl⟩, .pod, settings.mem_watchedKinds rfl, hpods,
      by rwa [List.count_replicate_self]⟩
  rw [hreturned]
  exact Option.some_ne_none _

end Run

end PodDirectory
