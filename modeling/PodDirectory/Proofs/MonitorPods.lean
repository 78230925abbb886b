import PodDirectory.Monitor
import PodDirectory.Proofs.PodCalls
import PodDirectory.Proofs.TrackerKinds

/-!
# The pods of a monitor

Much happens to a monitor that has nothing to do with pods. If nobody but the tracker of
pods tells of pods, and this tracker is never replaced, then the pods of the directory
depend on the tracker alone, and the tracker on the events that reach it.

`Follows` says what one event does to the tracker of pods and to the directory.
`follows_of_path` cuts it out of anything that happens to a monitor: nodes, endpoint slices,
marks and waits can come in between, and notices as long as they are not about pods.
-/

namespace PodDirectory

/-! ## Steps that matter to pods -/

/-- The event that a step brings to the tracker of pods, if it does. -/
def MonitorStep.podEvent? : MonitorStep → Option (WatchEvent .pod)
  | .watch .pod e => some e
  | _ => none

/-- **Whether a step leaves pods to their tracker**: it neither tells of a pod itself nor
replaces the tracker. -/
def MonitorStep.SparesPods : MonitorStep → Prop
  | .notify notice => notice.podCall? = none
  | .restart k => k ≠ .pod
  | _ => True

instance : (s : MonitorStep) → Decidable s.SparesPods
  | .notify notice => inferInstanceAs (Decidable (notice.podCall? = none))
  | .restart k => inferInstanceAs (Decidable (k ≠ .pod))
  | .mark _ | .watch _ _ | .wait _ => inferInstanceAs (Decidable True)

/-- Whether the namespace of the pod of an event, if it has any, is without a dot. -/
def WatchEvent.HasDotlessNs (e : WatchEvent .pod) : Prop :=
  ∀ pod ∈ e.object?, ∀ ns ∈ pod.metadata.ns, IsDotless ns

instance (e : WatchEvent .pod) : Decidable e.HasDotlessNs :=
  inferInstanceAs (Decidable (∀ pod ∈ e.object?, ∀ ns ∈ pod.metadata.ns, IsDotless ns))

/-- A notice about another kind says nothing of a pod. -/
theorem Notice.podCall?_of_isOfKind {k : Kind} (hk : k ≠ .pod) {n : Notice}
    (h : n.IsOfKind k) : n.podCall? = none := by
  unfold podCall?
  split
  · exact absurd h.symm hk
  · exact absurd h.2.symm hk
  · exact absurd h.symm hk
  · rfl

/-- Effects of another kind do nothing to pods. -/
theorem podCalls_of_isOfKind {k : Kind} (hk : k ≠ .pod) {effects : List Effect}
    (h : ∀ effect ∈ effects, effect.IsOfKind k) : effects.filterMap Effect.podCall? = [] := by
  refine List.filterMap_eq_nil_iff.mpr fun effect heffect => ?_
  have hkind := h effect heffect
  cases effect with
  | log event => rfl
  | notify ref notice => exact Notice.podCall?_of_isOfKind hk hkind
  | markListed j => rfl

/-! ## One event at the tracker of pods -/

/-- **What an event does** to the tracker of pods and to a directory that it tells of
everything. -/
def Follows (s : Tracker .pod × Directory) (e : WatchEvent .pod)
    (s' : Tracker .pod × Directory) : Prop :=
  ∃ effects, s.1.Takes e s'.1 effects ∧ s'.2 = s.2.callAll (effects.filterMap Effect.podCall?)

namespace Monitor

/-- **Taking a step**, where the objects that vanished may be visited in any order. -/
inductive Takes (m : Monitor) : MonitorStep → Monitor → Prop where
  | step (s : MonitorStep) : Takes m s (m.step s).1
  | watch {k : Kind} {e : WatchEvent k} {t : Tracker k} {effects : List Effect}
    (h : (m.tracker k).Takes e t effects) :
    Takes m (.watch k e)
      { m.setTracker k t with directory := (m.directory.performAll effects).1 }

/-- Every run is a path. -/
theorem path_run (m : Monitor) (steps : List MonitorStep) :
    Steps.Path Takes m steps (m.run steps).1 :=
  Steps.path_run (fun _ s => .step s) m steps

/-- A step that watches comes to the same, in whatever order it visits. -/
theorem Takes.watched {m m' : Monitor} {k : Kind} {e : WatchEvent k}
    (h : Takes m (.watch k e) m') :
    ∃ t effects, (m.tracker k).Takes e t effects ∧
      m' = { m.setTracker k t with directory := (m.directory.performAll effects).1 } := by
  cases h with
  | step => exact ⟨_, _, .step e, rfl⟩
  | watch h => exact ⟨_, _, h, rfl⟩

/-- What a monitor has of pods. -/
def podsPart (m : Monitor) : Tracker .pod × Directory := (m.pods, m.directory.podsOnly)

/-- An event at the tracker of pods is followed by the directory. -/
theorem Takes.follows {m m' : Monitor} {s : MonitorStep} {e : WatchEvent .pod}
    (h : Takes m s m') (hs : s.podEvent? = some e) : Follows m.podsPart e m'.podsPart := by
  cases s with
  | watch k e' =>
    cases k with
    | pod =>
      obtain rfl : e' = e := Option.some.inj hs
      obtain ⟨t, effects, ht, rfl⟩ := h.watched
      exact ⟨effects, ht, m.directory.podsOnly_performAll effects⟩
    | node => cases hs
    | endpointSlice => cases hs
  | notify | mark | restart | wait => cases hs

/-- Nothing else changes what a monitor has of pods. -/
theorem Takes.podsPart_eq {m m' : Monitor} {s : MonitorStep} (h : Takes m s m')
    (hspare : s.SparesPods) (hs : s.podEvent? = none) : m'.podsPart = m.podsPart := by
  -- another tracker does change the directory, but not its pods
  have hother : ∀ {k : Kind} {e : WatchEvent k} {t effects}, k ≠ .pod →
      (m.tracker k).Takes e t effects →
      (m.directory.performAll effects).1.podsOnly = m.directory.podsOnly := by
    intro k e t effects hk ht
    rw [Directory.podsOnly_performAll, podCalls_of_isOfKind hk ht.outcome.isOfKind,
      Directory.callAll_nil]
  cases s with
  | notify notice =>
    cases h
    refine Prod.ext rfl ?_
    show (m.directory.apply notice).1.podsOnly = _
    rw [Directory.podsOnly_apply, show notice.podCall? = none from hspare]
    rfl
  | mark k =>
    cases h
    exact Prod.ext rfl (m.directory.podsOnly_markListed k)
  | watch k e =>
    obtain ⟨t, effects, ht, rfl⟩ := h.watched
    cases k with
    | pod => cases hs
    | node => exact Prod.ext rfl (hother (by decide) ht)
    | endpointSlice => exact Prod.ext rfl (hother (by decide) ht)
  | restart k =>
    cases h
    cases k with
    | pod => exact absurd rfl hspare
    | node => rfl
    | endpointSlice => rfl
  | wait step =>
    cases h
    show ((m.wait step).1).podsPart = _
    unfold wait
    cases m.waiters.step m.directory.readiness.poll step with
    | mk waiters found =>
      cases found with
      | none => rfl
      | some result => exact Prod.ext rfl (m.directory.podsOnly_conclude result)

/-- **The pods of a monitor follow the events** that reach their tracker, whatever else
happens in between. -/
theorem follows_of_path {m m' : Monitor} {steps : List MonitorStep}
    (path : Steps.Path Takes m steps m') (hspare : ∀ s ∈ steps, s.SparesPods) :
    Steps.Path Follows m.podsPart (steps.filterMap MonitorStep.podEvent?) m'.podsPart :=
  path.filterMap (fun _ _ _ _ _ h hs => h.follows hs)
    (fun _ s _ hmem h hs => h.podsPart_eq (hspare s hmem) hs)

end Monitor

end PodDirectory
