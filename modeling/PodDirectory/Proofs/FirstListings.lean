import PodDirectory.Proofs.MonitorPods

/-!
# Which kinds have been listed

A tracker marks its kind as listed at the end of every listing, also of one that it did not
see the start of, and at no other time. Nobody else marks kinds unless it is asked to. So
the kinds that a monitor has marked are those whose listing was done once
(`Monitor.contains_listed_iff`), and it is ready when this is true of every required kind
(`Monitor.isReady_iff_allListed`).
-/

namespace PodDirectory

/-! ## Notices and effects -/

namespace Directory

/-- Notices are about objects: they change neither what is listed nor what was waited for. -/
theorem apply_readiness_synced (d : Directory) (n : Notice) :
    (d.apply n).1.readiness = d.readiness ∧ (d.apply n).1.synced = d.synced := by
  have hcount : ∀ slices addresses : Int64,
      (d.countSlices slices addresses).readiness = d.readiness ∧
      (d.countSlices slices addresses).synced = d.synced := fun _ _ => ⟨rfl, rfl⟩
  cases n with
  | added what initial => cases what <;> exact ⟨rfl, rfl⟩
  | updated old new => cases old <;> cases new <;> exact ⟨rfl, rfl⟩
  | deleted what =>
    cases what with
    | pod r => exact ⟨rfl, rfl⟩
    | node r => exact ⟨rfl, rfl⟩
    | slice s => exact hcount _ _

@[simp] theorem readiness_apply (d : Directory) (n : Notice) :
    (d.apply n).1.readiness = d.readiness := (d.apply_readiness_synced n).1

@[simp] theorem synced_apply (d : Directory) (n : Notice) :
    (d.apply n).1.synced = d.synced := (d.apply_readiness_synced n).2

/-- Only a successful wait makes a directory synced, and no effect does. -/
theorem synced_performAll (d : Directory) (effects : List Effect) :
    (d.performAll effects).1.synced = d.synced := by
  refine Steps.run_keeps (P := fun d' : Directory => d'.synced = d.synced)
    (fun d' e h => ?_) rfl effects
  cases e with
  | log event => exact h
  | notify ref notice => exact (d'.synced_apply notice).trans h
  | markListed k => exact h

theorem required_performAll (d : Directory) (effects : List Effect) :
    (d.performAll effects).1.readiness.required = d.readiness.required := by
  refine Steps.run_keeps (P := fun d' : Directory => d'.readiness.required = d.readiness.required)
    (fun d' e h => ?_) rfl effects
  cases e with
  | log event => exact h
  | notify ref notice => exact (congrArg Readiness.required (d'.readiness_apply notice)).trans h
  | markListed k => exact (d'.readiness.required_mark k).trans h

/-- **After effects those kinds are marked that were, and those that the effects mark.** -/
theorem contains_listed_performAll (d : Directory) (effects : List Effect) (j : Kind) :
    (d.performAll effects).1.readiness.listed.contains j = true ↔
      d.readiness.listed.contains j = true ∨ .markListed j ∈ effects := by
  induction effects generalizing d with
  | nil => simp [performAll]
  | cons e effects ih =>
    have hperform : (d.performAll (e :: effects)).1 = ((d.perform e).1.performAll effects).1 := rfl
    rw [hperform, ih, List.mem_cons]
    cases e with
    | log event => simp [perform]
    | notify ref notice => simp [perform]
    | markListed k =>
      have hmark : ((d.markListed k).1.readiness).listed.contains j = true ↔
          j = k ∨ d.readiness.listed.contains j = true := by
        show (d.readiness.mark k).1.listed.contains j = true ↔ _
        rw [Readiness.contains_listed_mark, Bool.or_eq_true, decide_eq_true_eq]
      show (d.markListed k).1.readiness.listed.contains j = true ∨ _ ↔ _
      rw [hmark, Effect.markListed.injEq, or_comm (a := j = k), or_assoc]

end Directory

/-! ## Trackers -/

namespace Tracker

variable {k : Kind}

/-- **A tracker marks its kind at the end of a listing**, and nothing else at any time. -/
theorem Outcome.markListed_mem_iff {t t' : Tracker k} {e : WatchEvent k} {effects : List Effect}
    (h : Outcome t e t' effects) (j : Kind) :
    .markListed j ∈ effects ↔ j = k ∧ e = .listingDone := by
  constructor
  · intro hmem
    cases h.causes hmem
    exact ⟨rfl, rfl⟩
  · rintro ⟨rfl, rfl⟩
    obtain ⟨gone, -, -, rfl⟩ := h.of_listingDone
    exact List.mem_append_right _ (List.mem_singleton_self _)

end Tracker

/-! ## Monitors -/

/-- **Whether each of some kinds has been listed** once in the course of some steps. -/
def AllListed (kinds : KindSet) (steps : List MonitorStep) : Prop :=
  ∀ k, kinds.contains k = true → .watch k .listingDone ∈ steps

/-- Whether a step leaves it to the trackers to mark kinds. -/
def MonitorStep.SparesMarks : MonitorStep → Prop
  | .mark _ => False
  | _ => True

instance : (s : MonitorStep) → Decidable s.SparesMarks
  | .mark _ => inferInstanceAs (Decidable False)
  | .notify _ | .restart _ | .watch _ _ | .wait _ => inferInstanceAs (Decidable True)

namespace Monitor

theorem readiness_wait (m : Monitor) (w : WaitStep) :
    (m.wait w).1.directory.readiness = m.directory.readiness := by
  unfold wait
  cases m.waiters.step m.directory.readiness.poll w with
  | mk waiters found =>
    cases found with
    | none => rfl
    | some result => cases result <;> rfl

theorem Takes.required_eq {m m' : Monitor} {s : MonitorStep} (h : Takes m s m') :
    m'.directory.readiness.required = m.directory.readiness.required := by
  cases s with
  | notify notice =>
    cases h
    exact congrArg Readiness.required (m.directory.readiness_apply notice)
  | mark k =>
    cases h
    exact m.directory.readiness.required_mark k
  | watch k e =>
    obtain ⟨t, effects, -, rfl⟩ := h.watched
    exact m.directory.required_performAll effects
  | restart k =>
    cases h
    cases k <;> rfl
  | wait w =>
    cases h
    exact congrArg Readiness.required (m.readiness_wait w)

/-- **A kind is marked by the end of its listing**, unless it is marked without one. -/
theorem Takes.contains_listed_iff {m m' : Monitor} {s : MonitorStep} (h : Takes m s m')
    (hs : s.SparesMarks) (j : Kind) :
    m'.directory.readiness.listed.contains j = true ↔
      m.directory.readiness.listed.contains j = true ∨ s = .watch j .listingDone := by
  cases s with
  | notify notice =>
    cases h
    show ((m.directory.apply notice).1.readiness).listed.contains j = true ↔ _
    simp
  | mark k => exact hs.elim
  | watch k e =>
    obtain ⟨t, effects, ht, rfl⟩ := h.watched
    show (m.directory.performAll effects).1.readiness.listed.contains j = true ↔ _
    rw [Directory.contains_listed_performAll, ht.outcome.markListed_mem_iff]
    constructor
    · rintro (h | ⟨rfl, rfl⟩)
      · exact Or.inl h
      · exact Or.inr rfl
    · rintro (h | h)
      · exact Or.inl h
      · cases h
        exact Or.inr ⟨rfl, rfl⟩
  | restart k =>
    cases h
    show (m.setTracker k {}).directory.readiness.listed.contains j = true ↔ _
    cases k <;> simp [setTracker]
  | wait w =>
    cases h
    show (m.wait w).1.directory.readiness.listed.contains j = true ↔ _
    simp [readiness_wait]

/-- **The kinds marked are those whose listing was done.** -/
theorem contains_listed_iff {m m' : Monitor} {steps : List MonitorStep}
    (path : Steps.Path Takes m steps m') (hspare : ∀ s ∈ steps, s.SparesMarks) (j : Kind) :
    m'.directory.readiness.listed.contains j = true ↔
      m.directory.readiness.listed.contains j = true ∨ .watch j .listingDone ∈ steps := by
  induction path with
  | nil => simp
  | @cons m mid last s steps first rest ih =>
    rw [ih fun s hs => hspare s (List.mem_cons_of_mem _ hs),
      first.contains_listed_iff (hspare s List.mem_cons_self), List.mem_cons, or_assoc,
      eq_comm (a := s)]

/-- **A monitor is ready when every required kind has been listed once.** -/
theorem isReady_iff_allListed {required : KindSet} {logsNodeUpdates : Bool}
    {steps : List MonitorStep} {m : Monitor}
    (path : Steps.Path Takes { directory := .new required logsNodeUpdates } steps m)
    (hspare : ∀ s ∈ steps, s.SparesMarks) :
    m.directory.readiness.isReady = true ↔ AllListed required steps := by
  have hrequired : m.directory.readiness.required = required :=
    path.keeps (P := fun m => m.directory.readiness.required = required)
      (fun _ _ _ _ h hm => h.required_eq.trans hm) rfl
  rw [Readiness.isReady_iff, hrequired]
  refine forall₂_congr fun k _ => ?_
  rw [contains_listed_iff path hspare]
  simp [Directory.new]

end Monitor

end PodDirectory
