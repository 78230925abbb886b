import PodDirectory.Monitor
import PodDirectory.Watch.Feed

/-!
# Watchers side by side

A watcher takes the items of its feed one by one. It lets the tracker of its kind take the
events, and logs the failures, since the feed goes on by itself. When the feed is over the watcher
returns, and when the feed crashes it crashes too; where the feed stays open, it waits.

The watchers of several kinds are at work at the same time, and which of them gets ahead is not
settled. Here they take turns, in whatever order; one turn is one item. They are watched over
themselves: the first one that comes to its end, however that may be, is the end of all of them
(`supervise`).
-/

namespace PodDirectory

/-! ## Ends -/

/-- How a watcher comes to its end. -/
inductive TaskEnd where
  | returned
  | panicked
deriving DecidableEq, Repr

/-- How a watcher comes to its end when it has taken all items of its feed. It does not where the
feed stays open. -/
def FeedEnd.taskEnd? : FeedEnd → Option TaskEnd
  | quiet | stalled => none
  | closed => some .returned
  | crashed => some .panicked

/-- What is logged when a watcher comes to its end, with so many objects known to its tracker. -/
def TaskEnd.logged (objects : Nat) : TaskEnd → List LogEvent
  | returned => [.feedOver objects]
  | panicked => []

/-- Why the watchers were given up. -/
inductive RunError where
  /-- A watcher has returned. -/
  | watcherStopped
  /-- A watcher has crashed. -/
  | watcherFailed
  /-- There was nothing to watch over. -/
  | noWatchers
deriving DecidableEq, Repr

/-- The wording of a run error. -/
def RunError.message : RunError → String
  | watcherStopped => "watcher stopped unexpectedly"
  | watcherFailed => "watcher task failed"
  | noWatchers => "no watchers were started"

/-- **What the end of the first watcher comes to**, or that there are no watchers: the result of
the run, and what is logged. -/
def supervise : Option TaskEnd → Except RunError Unit × List LogEvent
  | some .returned => (.error .watcherStopped, [.watcherStopped])
  | some .panicked => (.error .watcherFailed, [])
  | none => (.error .noWatchers, [])

/-! ## Turns -/

/-- Watchers at work. -/
structure Watchers where
  /-- The monitor that they feed. -/
  monitor : Monitor
  /-- What is left of the feed of each kind. There is none if the kind is not watched, or if its
  watcher has come to its end. -/
  feeds : (k : Kind) → Option (Feed k)
  /-- How watchers have come to their ends, in this order. -/
  ends : List TaskEnd := []
  /-- How failures are worded. -/
  wording : FeedFailure → String

namespace Watchers

/-- Takes an item from the feed of a kind. -/
def take (w : Watchers) (k : Kind) : FeedItem k → Monitor × List LogEvent
  | .ok e => w.monitor.watch k e
  | .error failure => (w.monitor, [.watchFailed (w.wording failure)])

/-- **The watcher of a kind takes its turn**: it takes the next item of its feed. If there is none
left, it comes to its end or waits. -/
def turn (w : Watchers) (k : Kind) : Watchers × List LogEvent :=
  match w.feeds k with
  | none => (w, [])
  | some ⟨item :: items, ending⟩ =>
    let (monitor, logged) := w.take k item
    ({ w with monitor, feeds := Kind.update w.feeds k (some ⟨items, ending⟩) }, logged)
  | some ⟨[], ending⟩ =>
    match ending.taskEnd? with
    | none => (w, [])
    | some how =>
      ({ w with feeds := Kind.update w.feeds k none, ends := w.ends ++ [how] },
        how.logged (w.monitor.tracker k).known.size)

/-- Watchers take turns in an order. Turns behind the end of the first one make no difference to
what the run returns (`Watchers.result_run_of_some`). -/
def run (w : Watchers) (order : List Kind) : Watchers × List LogEvent :=
  Steps.run turn w order

/-! ## Results -/

/-- **The end of the first watcher**, which is waited for: `none` as long as all of them are at
work, and `some none` if there are no watchers. -/
def firstEnd (w : Watchers) : Option (Option TaskEnd) :=
  match w.ends with
  | first :: _ => some (some first)
  | [] => if Kind.all.any fun k => (w.feeds k).isSome then none else some none

/-- The result of the run, if it has returned. -/
def result (w : Watchers) : Option (Except RunError Unit) :=
  w.firstEnd.map fun ended => (supervise ended).1

end Watchers

end PodDirectory
