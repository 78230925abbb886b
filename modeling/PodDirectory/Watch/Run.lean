import PodDirectory.Log.Line
import PodDirectory.Watch.Watchers

/-!
# A run against a server

The kinds that the settings name are listed and watched side by side, each under its
target, and every one of them feeds its tracker of one monitor. A run goes on until nothing more
happens; then a wait for the first listings is looked at for the last time and given up if
it has not succeeded. If the run returns before that, its result is all that counts.

What is seen of a run that goes on does not depend on the order in which the watchers take their
turns. The order here is one watcher after the other.
-/

namespace PodDirectory

/-- What is left of a run when everything is quiet. -/
structure Run where
  monitor : Monitor
  /-- What the wait for the first listings found. -/
  sync : WaitResult
  /-- What was logged, apart from the wait. -/
  logged : List LogEvent
  /-- Whether the run has returned, and without an error. -/
  returned : Bool

namespace Run

/-- The feed of a kind under the settings. -/
def feed (settings : Settings) (server : Server) (k : Kind) : Feed k :=
  .under k server (settings.pageTarget? k) (settings.watchTarget? k)

/-- Under a plain namespace the feed is read from the answers under the path of the kind. -/
theorem feed_eq_read {settings : Settings} (h : settings.hasPlainNamespace = true)
    (server : Server) (k : Kind) :
    feed settings server k =
      .read k (server.lists (settings.path k)) (server.watches (settings.path k)) := by
  rw [feed, settings.pageTarget?_eq k h, settings.watchTarget?_eq k h]
  exact Feed.under_eq_read k server (Target.asksToWatch_pageQuery _)
    (Target.asksToWatch_watchQuery _)

/-- Whether the watcher of some kind crashes. -/
def crashes (settings : Settings) (server : Server) : Bool :=
  settings.watchedKinds.any fun k => (feed settings server k).ending == .crashed

/-- A monitor that has seen nothing yet. -/
def start (settings : Settings) : Monitor where
  directory := .new Directory.defaultRequired settings.logNodeUpdates

/-- The watchers that the settings name, before their first turns. -/
def launch (settings : Settings) (server : Server) : Watchers where
  monitor := start settings
  feeds k := if k ∈ settings.watchedKinds then some (feed settings server k) else none
  wording := server.wording

/-- An order in which every watcher gets through its feed and comes to its end, if it does. -/
def inFull (settings : Settings) (server : Server) : List Kind :=
  settings.watchedKinds.flatMap fun k =>
    List.replicate ((feed settings server k).items.length + 1) k

/-- **Runs the watchers** that the settings name against a server, until everything is quiet or
the run returns with an error. -/
def against (settings : Settings) (server : Server) : Except RunError Run :=
  let started := LogEvent.watchersStarted settings.watchedNamespace settings.watchedKinds.length
  let (w, logged) := (launch settings server).run (inFull settings server)
  let sync := w.monitor.directory.readiness.poll true
  match w.result with
  | some (.error e) => .error e
  | result =>
    .ok {
      monitor := { w.monitor with directory := (w.monitor.directory.conclude sync).1 }
      sync
      logged := started :: logged
      returned := result.isSome }

/-- The paths of which pages are asked for, in order. -/
def listedPaths (settings : Settings) : List String :=
  let targets := (settings.watchedKinds.filterMap settings.pageTarget?).filter (!·.asksToWatch)
  (targets.map Target.path).mergeSort (· ≤ ·)

/-- Whether a run shows an event that it has logged. The lowest level is not shown, and neither are
failures, whose wording and number are not those of this library. -/
def shows (event : LogEvent) : Bool :=
  event.line.level ≠ .debug && !event matches .watchFailed _

/-- The lines that a run shows, in an order of their own, since the watchers run side by side. -/
def lines (r : Run) : List LogLine := LogLine.sort ((r.logged.filter shows).map LogEvent.line)

end Run

end PodDirectory
