import PodDirectory.Tracker
import PodDirectory.Readiness.Waiters

/-!
# The monitor

A monitor is a directory together with the three trackers that feed it, one for each kind,
and the waits for the first listings. Whatever happens to any of them is a step of the
monitor.
-/

namespace PodDirectory

/-- A directory, what feeds it, and who waits for it. -/
structure Monitor where
  directory : Directory
  pods : Tracker .pod := {}
  nodes : Tracker .node := {}
  slices : Tracker .endpointSlice := {}
  waiters : Waiters := {}
deriving DecidableEq

/-- Something that happens to a monitor. -/
inductive MonitorStep where
  /-- The directory is told of a change that no tracker has found. -/
  | notify (notice : Notice)
  /-- A kind is marked as listed without a listing. -/
  | mark (kind : Kind)
  /-- An event reaches the tracker of a kind. -/
  | watch (kind : Kind) (event : WatchEvent kind)
  /-- The tracker of a kind is replaced by one that knows nothing. -/
  | restart (kind : Kind)
  /-- Something is done about the waits for the first listings. -/
  | wait (step : WaitStep)

namespace Monitor

/-- The tracker of a kind. -/
def tracker (m : Monitor) : (k : Kind) → Tracker k
  | .pod => m.pods
  | .node => m.nodes
  | .endpointSlice => m.slices

/-- The monitor with another tracker for a kind. -/
def setTracker (m : Monitor) : (k : Kind) → Tracker k → Monitor
  | .pod, t => { m with pods := t }
  | .node, t => { m with nodes := t }
  | .endpointSlice, t => { m with slices := t }

/-- Lets the tracker of a kind take an event, and does what it wants done. -/
def watch (m : Monitor) (k : Kind) (e : WatchEvent k) : Monitor × List LogEvent :=
  let (tracker, effects) := (m.tracker k).step e
  let (directory, logged) := m.directory.performAll effects
  ({ m.setTracker k tracker with directory }, logged)

/-- Does something about the waits for the first listings. -/
def wait (m : Monitor) (step : WaitStep) : Monitor × Option WaitResult × List LogEvent :=
  let (waiters, found) := m.waiters.step m.directory.readiness.poll step
  match found with
  | none => ({ m with waiters }, none, [])
  | some result =>
    let (directory, logged) := m.directory.conclude result
    ({ m with directory, waiters }, some result, logged)

/-- **Takes a step**: what was found, if the step looked at a wait, and what is logged. -/
def step (m : Monitor) : MonitorStep → Monitor × Option WaitResult × List LogEvent
  | .notify notice =>
    let (directory, logged) := m.directory.apply notice
    ({ m with directory }, none, logged)
  | .mark k =>
    let (directory, logged) := m.directory.markListed k
    ({ m with directory }, none, logged)
  | .watch k e =>
    let (next, logged) := m.watch k e
    (next, none, logged)
  | .restart k => (m.setTracker k {}, none, [])
  | .wait step => m.wait step

/-- Lets the tracker of a kind take events one after the other. -/
def watchAll (m : Monitor) (k : Kind) (events : List (WatchEvent k)) :
    Monitor × List LogEvent :=
  Steps.run (·.watch k) m events

/-- Takes steps one after the other, and keeps what is logged. -/
def run (m : Monitor) (steps : List MonitorStep) : Monitor × List LogEvent :=
  Steps.run (fun m s => ((m.step s).1, (m.step s).2.2)) m steps

end Monitor

end PodDirectory
