import PodDirectory.Readiness
import PodDirectory.Steps
import Std.Data.ExtTreeMap
import Std.Data.ExtTreeSet

/-!
# Waits and the tokens that cancel them

Any number of waits can be under way at once. A wait has a name, and it hangs on a token,
which it may share with others: cancelling a token cancels every wait on it, also those
that start later, and a cancelled token stays cancelled. A wait that was found to be over
is forgotten, and so is a wait whose name is given to a new one.
-/

namespace PodDirectory

open Std (ExtTreeMap ExtTreeSet)

/-- The waits under way and the tokens cancelled so far. -/
structure Waiters where
  /-- The token of each wait. -/
  tokens : ExtTreeMap String String := ∅
  cancelled : ExtTreeSet String := ∅
deriving DecidableEq, Inhabited

/-- What can be done about waits. -/
inductive WaitStep where
  /-- Waits on a token of its own, looks once and gives up. -/
  | once (cancelled : Bool)
  /-- Starts a wait on a token, without a look. -/
  | start (name token : String)
  /-- Looks at a wait. -/
  | poll (name : String)
  /-- Gives a wait up. -/
  | drop (name : String)
  | cancel (token : String)
deriving DecidableEq, Repr

namespace Waiters

/-- Whether the token of a wait has been cancelled, if there is such a wait. -/
def cancelled? (w : Waiters) (name : String) : Option Bool :=
  w.tokens[name]?.map w.cancelled.contains

/-- **Takes a step.** The step may look at one wait, which is given by whether it has been
cancelled; `look` says what is found. -/
def step (w : Waiters) (look : Bool → WaitResult) : WaitStep → Waiters × Option WaitResult
  | .once cancelled => (w, some (look cancelled))
  | .start name token => ({ w with tokens := w.tokens.insert name token }, none)
  | .poll name =>
    match w.cancelled? name with
    | none => (w, none)
    | some cancelled =>
      let result := look cancelled
      (if result.isFinal then { w with tokens := w.tokens.erase name } else w, some result)
  | .drop name => ({ w with tokens := w.tokens.erase name }, none)
  | .cancel token => ({ w with cancelled := w.cancelled.insert token }, none)

end Waiters

/-! ## Readiness together with its waits -/

/-- Readiness and the waits for it. -/
structure Lobby where
  readiness : Readiness
  waiters : Waiters := {}
deriving DecidableEq

/-- What can happen in a lobby. -/
inductive LobbyStep where
  | mark (kind : Kind)
  | wait (step : WaitStep)
deriving DecidableEq, Repr

/-- **Takes a step**: what was found, if the step looked at a wait, and what is logged. -/
def Lobby.step (l : Lobby) : LobbyStep → Lobby × Option WaitResult × List LogEvent
  | .mark k =>
    let (readiness, _, logged) := l.readiness.mark k
    ({ l with readiness }, none, logged)
  | .wait step =>
    let (waiters, found) := l.waiters.step l.readiness.poll step
    ({ l with waiters }, found, [])

/-- Takes steps one after the other, and keeps what is logged. -/
def Lobby.run (l : Lobby) (steps : List LobbyStep) : Lobby × List LogEvent :=
  Steps.run (fun l s => ((l.step s).1, (l.step s).2.2)) l steps

end PodDirectory
