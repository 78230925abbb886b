import PodDirectory.Log.Event

/-!
# Readiness

Some kinds are required: the directory is worth asking only after the first listing of
each of them is complete. `Readiness` remembers which kinds are required and which have
been marked as listed. It is ready when every required kind has been marked, whatever
else has been.

A wait for readiness is looked at from time to time. It succeeds as soon as everything is
ready, also if it has been cancelled by then; failing that it fails if it has been
cancelled, and goes on otherwise.

Whoever waits sleeps between two looks, and a mark wakes them only if it is news. A mark that wakes
nobody leaves everything as it is (`Readiness.mark_eq_iff`), so that no look is missed: a look
finds what it would have found at any time since the last mark that woke somebody.
-/

namespace PodDirectory

/-- Which kinds have to be listed, and which have been. -/
structure Readiness where
  required : KindSet
  listed : KindSet := .empty
deriving DecidableEq, Repr

/-- What a look at a wait finds. -/
inductive WaitResult where
  | ready
  | pending
  | cancelled
deriving DecidableEq, Repr

/-- Whether a wait is over with this result. -/
def WaitResult.isFinal (r : WaitResult) : Bool := r != .pending

namespace Readiness

/-- Whether every required kind has been listed. -/
def isReady (r : Readiness) : Bool := r.required.isSubset r.listed

/-- Marks a kind as listed, and says whether this wakes those who wait. Only the first time does,
and only then is there a line in the log. -/
def mark (r : Readiness) (k : Kind) : Readiness × Bool × List LogEvent :=
  if r.listed.contains k then (r, false, [])
  else ({ r with listed := r.listed.insert k }, true, [.kindMarked k])

/-- Looks at a wait that has or has not been cancelled. -/
def poll (r : Readiness) (cancelled : Bool) : WaitResult :=
  if r.isReady then .ready
  else if cancelled then .cancelled
  else .pending

/-! ## What marking does -/

theorem contains_listed_mark (r : Readiness) (k j : Kind) :
    (r.mark k).1.listed.contains j = (decide (j = k) || r.listed.contains j) := by
  unfold mark
  split
  · next h =>
    by_cases hj : j = k
    · simp [hj, h]
    · simp [hj]
  · simp

@[simp] theorem required_mark (r : Readiness) (k : Kind) : (r.mark k).1.required = r.required := by
  unfold mark
  split <;> rfl

/-- **A mark that wakes nobody changes nothing**, and every other one does. -/
theorem mark_eq_iff (r : Readiness) (k : Kind) : (r.mark k).1 = r ↔ (r.mark k).2.1 = false := by
  unfold mark
  split
  · exact iff_of_true rfl rfl
  · next h =>
    refine iff_of_false (fun heq => h ?_) (by simp)
    rw [← heq, KindSet.contains_insert, decide_eq_true rfl, Bool.true_or]

/-- What a look finds is the same as before, unless somebody has been woken. -/
theorem poll_mark_of_silent {r : Readiness} {k : Kind} (h : (r.mark k).2.1 = false)
    (cancelled : Bool) : (r.mark k).1.poll cancelled = r.poll cancelled := by
  rw [(r.mark_eq_iff k).mpr h]

theorem isReady_iff (r : Readiness) :
    r.isReady = true ↔ ∀ k, r.required.contains k = true → r.listed.contains k = true :=
  KindSet.isSubset_iff

end Readiness

end PodDirectory
