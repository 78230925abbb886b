import PodDirectory.Proofs.Lifecycles
import PodDirectory.Proofs.TrackerKinds

/-!
# The contract of a tracker

What the directory is promised by a tracker, whatever events the tracker takes and whatever
order it visits vanished objects in. `Contract` lists the promises: every object has a
lifecycle, what is remembered is what was delivered last, deletions come when and with what
they should, and no update is ever dropped for changing the kind of an object.

The promises are kept from the first event on, along any path from a new tracker. Every
sequence of events has such a path, the one of its run (`path_movesOf`).
-/

namespace PodDirectory

open Std (ExtTreeMap)

namespace Tracker

variable {k : Kind}

/-! ## What is told at each event -/

section Outcome

variable {t t' : Tracker k} {e : WatchEvent k} {effects : List Effect}

/-- An object that is listed or changed is delivered, with its record. -/
theorem Outcome.effects_delivered {o : k.Object} (h : Outcome t e t' effects)
    (he : e = .listed o ∨ e = .changed o) {ref : ObjectRef} {record : k.Record}
    (ho : k.identify o = .ok (ref, record)) :
    ∃ notice, effects = [.notify ref notice] ∧
      notice.delivered? = some (.ofRecord k record) := by
  have hobject : e.object? = some o := by rcases he with rfl | rfl <;> rfl
  rcases h.of_identified hobject ho with ⟨_, _, rfl⟩ | ⟨_, _, rfl⟩ | ⟨rfl, _⟩
  · exact ⟨_, rfl, delivered?_noticeOf ..⟩
  · exact ⟨_, rfl, delivered?_noticeOf ..⟩
  · rcases he with he | he <;> cases he

/-- A deletion that is watched is passed on with the record of the delivered object. -/
theorem Outcome.effects_deleted {o : k.Object} (h : Outcome t (.deleted o) t' effects)
    {ref : ObjectRef} {record : k.Record} (ho : k.identify o = .ok (ref, record)) :
    effects = [.notify ref (.deleted (.ofRecord k record))] := by
  obtain ⟨⟨⟩, _⟩ | ⟨⟨⟩, _⟩ | ⟨_, _, rfl⟩ := h.of_identified rfl ho
  rfl

/-- **The end of a listing deletes what is known and was missed**, with the last record. -/
theorem Outcome.noticesFor_vanished (h : Outcome t .listingDone t' effects) {ref : ObjectRef}
    {last : k.Record} (hknown : t.known[ref]? = some last) (hm : t.Misses ref) :
    noticesFor ref effects = [.deleted (.ofRecord k last)] := by
  obtain ⟨gone, hgone, _, rfl⟩ := h.of_listingDone
  obtain ⟨hmem, -⟩ := ExtTreeMap.getElem?_eq_some_iff.mp hknown
  rw [noticesFor_finishListing, if_pos (hgone.mem_iff.mpr (mem_vanished.mpr ⟨hmem, hm⟩)),
    hknown]
  rfl

/-- **The end of a listing tells of nothing else.** -/
theorem Outcome.noticesFor_kept (h : Outcome t .listingDone t' effects) {ref : ObjectRef}
    (hkept : ¬ (ref ∈ t.known ∧ t.Misses ref)) : noticesFor ref effects = [] := by
  obtain ⟨gone, hgone, _, rfl⟩ := h.of_listingDone
  rw [noticesFor_finishListing, if_neg fun h => hkept (mem_vanished.mp (hgone.mem_iff.mp h))]

end Outcome

/-! ## The contract -/

/-- **The contract of a tracker** that has come from nothing by some moves. The notices for
an object are its life, in the sense of `life`. -/
structure Contract (moves : List (Move k)) (t : Tracker k) : Prop where
  /-- Every object has a lifecycle, and an update comes with what was delivered before it. -/
  lifecycle (ref : ObjectRef) : Lifecycle k (life ref moves) t.known[ref]?
  /-- What is remembered of an object is what was delivered last. -/
  remembered (ref : ObjectRef) :
    lastDelivered (life ref moves) = (t.known[ref]?).map (.ofRecord k)
  /-- As many objects are known as have been delivered and not deleted since. -/
  counted : ∃ refs : List ObjectRef, refs.Nodup ∧ refs.length = t.known.size ∧
    ∀ ref, ref ∈ refs ↔ (lastDelivered (life ref moves)).isSome
  /-- An object that is listed or changed is delivered, with its record. -/
  delivered {m : Move k} (hm : m ∈ moves) {o : k.Object}
    (he : m.event = .listed o ∨ m.event = .changed o) {ref : ObjectRef} {record : k.Record}
    (ho : k.identify o = .ok (ref, record)) :
    ∃ notice, m.effects = [.notify ref notice] ∧ notice.delivered? = some (.ofRecord k record)
  /-- A deletion that is watched is passed on with the record of the delivered object. -/
  deletion {m : Move k} (hm : m ∈ moves) {o : k.Object} (he : m.event = .deleted o)
    {ref : ObjectRef} {record : k.Record} (ho : k.identify o = .ok (ref, record)) :
    m.effects = [.notify ref (.deleted (.ofRecord k record))]
  /-- The start of a listing is not told of. -/
  started {m : Move k} (hm : m ∈ moves) (he : m.event = .listingStarted) (ref : ObjectRef) :
    noticesFor ref m.effects = []
  /-- An object that cannot be identified is not told of. -/
  defective {m : Move k} (hm : m ∈ moves) {o : k.Object} (he : m.event.object? = some o)
    {defect : Defect} (ho : k.identify o = .error defect) (ref : ObjectRef) :
    noticesFor ref m.effects = []
  /-- The end of a listing deletes every known object that the listing has missed, with what
  was delivered of it last. -/
  vanished {earlier later : List (Move k)} {m : Move k} (hm : moves = earlier ++ m :: later)
    (he : m.event = .listingDone) {ref : ObjectRef} (hknown : ref ∈ m.before.known)
    (hmissed : MissedByListing (earlier.map Move.event) ref) :
    ∃ last, lastDelivered (life ref earlier) = some last ∧
      noticesFor ref m.effects = [.deleted last]
  /-- The end of a listing deletes nothing else. -/
  kept {earlier later : List (Move k)} {m : Move k} (hm : moves = earlier ++ m :: later)
    (he : m.event = .listingDone) {ref : ObjectRef}
    (h : ¬ (ref ∈ m.before.known ∧ MissedByListing (earlier.map Move.event) ref)) :
    noticesFor ref m.effects = []
  /-- Notices are about objects of the kind, the old and the new side of updates alike. -/
  kinds {m : Move k} (hm : m ∈ moves) : ∀ effect ∈ m.effects, effect.IsOfKind k
  /-- No directory ever drops an update for changing the kind of an object. -/
  notDropped {m : Move k} (hm : m ∈ moves) (d : Directory) (old new : Kind) :
    .updateDropped old new ∉ (d.performAll m.effects).2

/-- Of every move of a path something has come. -/
theorem outcome_of_mem {moves : List (Move k)} {t t' : Tracker k}
    (path : Steps.Path Move.Leads t moves t') {m : Move k} (hm : m ∈ moves) :
    ∃ after, Outcome m.before m.event after m.effects := by
  obtain ⟨earlier, later, rfl⟩ := List.append_of_mem hm
  exact (before_of_path path).2

/-- As many objects are known as have something delivered and not deleted since. -/
theorem exists_refs_of_path {moves : List (Move k)} {t : Tracker k}
    (path : Steps.Path Move.Leads {} moves t) :
    ∃ refs : List ObjectRef, refs.Nodup ∧ refs.length = t.known.size ∧
      ∀ ref, ref ∈ refs ↔ (lastDelivered (life ref moves)).isSome := by
  refine ⟨t.known.keys, ExtTreeMap.nodup_keys, ExtTreeMap.length_keys, fun ref => ?_⟩
  rw [ExtTreeMap.mem_keys, (lifecycle_life path ref).lastDelivered_eq,
    ExtTreeMap.mem_iff_isSome_getElem?, Option.isSome_map]

/-- **A tracker that starts from nothing keeps its contract**, by whatever moves. -/
theorem contract_of_path {moves : List (Move k)} {t : Tracker k}
    (path : Steps.Path Move.Leads {} moves t) : Contract moves t where
  lifecycle := lifecycle_life path
  remembered ref := (lifecycle_life path ref).lastDelivered_eq
  counted := exists_refs_of_path path
  delivered hm _ he _ _ ho := by
    obtain ⟨_, outcome⟩ := outcome_of_mem path hm
    exact outcome.effects_delivered he ho
  deletion hm _ he _ _ ho := by
    obtain ⟨_, outcome⟩ := outcome_of_mem path hm
    rw [he] at outcome
    exact outcome.effects_deleted ho
  started hm he ref := by
    obtain ⟨_, outcome⟩ := outcome_of_mem path hm
    rw [he] at outcome
    rw [outcome.of_listingStarted.2]
    rfl
  defective hm _ he _ ho ref := by
    obtain ⟨_, outcome⟩ := outcome_of_mem path hm
    rw [(outcome.of_defective he ho).2]
    rfl
  vanished hm he ref hknown hmissed := by
    subst hm
    obtain ⟨first, _, outcome⟩ := before_of_path path
    rw [he] at outcome
    obtain ⟨last, hlast⟩ := Option.isSome_iff_exists.mp
      (ExtTreeMap.mem_iff_isSome_getElem?.mp hknown)
    refine ⟨.ofRecord k last, ?_, ?_⟩
    · rw [(lifecycle_life first ref).lastDelivered_eq, hlast, Option.map_some]
    · exact outcome.noticesFor_vanished hlast ((misses_iff_missedByListing first ref).mpr hmissed)
  kept hm he ref h := by
    subst hm
    obtain ⟨first, _, outcome⟩ := before_of_path path
    rw [he] at outcome
    rw [← misses_iff_missedByListing first] at h
    exact outcome.noticesFor_kept h
  kinds hm := by
    obtain ⟨_, outcome⟩ := outcome_of_mem path hm
    exact outcome.isOfKind
  notDropped hm := by
    obtain ⟨_, outcome⟩ := outcome_of_mem path hm
    exact Directory.updateDropped_notMem_performAll outcome.isOfKind

/-! ## Runs -/

/-- **The moves of a run.** -/
def movesOf (t : Tracker k) : List (WatchEvent k) → List (Move k)
  | [] => []
  | e :: events => ⟨t, e, (t.step e).2⟩ :: (t.step e).1.movesOf events

/-- **Every run is a path**, by its moves. -/
theorem path_movesOf (t : Tracker k) (events : List (WatchEvent k)) :
    Steps.Path Move.Leads t (t.movesOf events) (t.run events).1 := by
  induction events generalizing t with
  | nil => exact .nil t
  | cons e events ih => exact .cons ⟨rfl, .step e⟩ (ih (t.step e).1)

/-- Two pods are listed, a third one is deleted that was never known, and then the second
one is missing from a listing. -/
theorem contract_of_relisting :
    let a : Pod := { metadata := { name := some "a", ns := some "default" } }
    let b : Pod := { metadata := { name := some "b", ns := some "default" } }
    let c : Pod := { metadata := { name := some "c", ns := some "default" } }
    let events : List (WatchEvent .pod) := [.listingStarted, .listed a, .listed b,
      .listingDone, .deleted c, .listingStarted, .listed a, .listingDone]
    let record : PodRecord := { key := ⟨"b", "default"⟩, snapshot := b }
    let moves := movesOf {} events
    Steps.Path Move.Leads {} moves (run {} events).1 ∧
      Contract moves (run {} events).1 ∧
      life ⟨"b", some "default"⟩ moves = [.added (.pod record) true, .deleted (.pod record)] ∧
      life ⟨"c", some "default"⟩ moves = [] ∧ (run {} events).1.known.size = 1 := by
  intro a b c events record moves
  have path := path_movesOf {} events
  exact ⟨path, contract_of_path path, by decide +kernel, by decide +kernel, by decide +kernel⟩

end Tracker

end PodDirectory
