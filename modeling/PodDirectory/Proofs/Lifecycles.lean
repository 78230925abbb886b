import Mathlib.Data.List.Induction
import PodDirectory.Proofs.TrackerSteps

/-!
# The notices for an object tell its life

The directory hears of an object only through notices, so these have to make sense by
themselves: an object is added, then updated any number of times, then deleted, and after
that it may be added again. `Lifecycle` is this language, read from the left, together with
the record that a reader of the notices has of the object at the end.

A tracker can break it in one way only. A deletion that is watched is passed on even if the
object is not known, and such a notice has nothing before it to delete. `Move.isStray` tells
these events apart; without them the notices for every object are a lifecycle, and the
record at its end is the one the tracker remembers (`lifecycle_life`).

What is deleted at the end of a listing can be told from the events alone: what is known and
was not listed since the listing started (`MissedByListing`).
-/

namespace PodDirectory

open Std (ExtTreeMap)

/-! ## Lifecycles -/

/-- **The life of an object in notices**, and the record that was delivered last if the
object is alive at the end. An update comes with exactly this record as the old one. -/
inductive Lifecycle (k : Kind) : List Notice → Option k.Record → Prop where
  | unborn : Lifecycle k [] none
  | added {life : List Notice} (before : Lifecycle k life none) (record : k.Record)
    (initial : Bool) : Lifecycle k (life ++ [.added (.ofRecord k record) initial]) (some record)
  | updated {life : List Notice} {old : k.Record} (before : Lifecycle k life (some old))
    (record : k.Record) :
    Lifecycle k (life ++ [.updated (.ofRecord k old) (.ofRecord k record)]) (some record)
  | deleted {life : List Notice} {last : k.Record} (before : Lifecycle k life (some last))
    (record : k.Record) : Lifecycle k (life ++ [.deleted (.ofRecord k record)]) none

/-- What a notice delivers, if it does not delete. -/
def Notice.delivered? : Notice → Option Observation
  | .added what _ => some what
  | .updated _ new => some new
  | .deleted _ => none

/-- What was delivered last, if it was not deleted since. -/
def lastDelivered (life : List Notice) : Option Observation := life.getLast?.bind (·.delivered?)

/-- What is passed on of an object delivers its record. -/
theorem Tracker.delivered?_noticeOf {k : Kind} (t : Tracker k) (ref : ObjectRef)
    (record : k.Record) (initial : Bool) :
    (t.noticeOf ref record initial).delivered? = some (.ofRecord k record) := by
  unfold noticeOf
  cases t.known[ref]? <;> rfl

/-- At the end of a life is what was delivered last. -/
theorem Lifecycle.lastDelivered_eq {k : Kind} {life : List Notice} {last : Option k.Record}
    (h : Lifecycle k life last) : lastDelivered life = last.map (.ofRecord k) := by
  cases h <;> simp [lastDelivered, Notice.delivered?]

/-! ## What the events say of the listing under way -/

/-- Whether an event starts a listing or ends it. -/
def WatchEvent.MarksListing {k : Kind} : WatchEvent k → Prop
  | .listingStarted | .listingDone => True
  | _ => False

/-- **Whether a listing is under way** after some events that has not had the object of a
ref: none of the objects since its start had that ref. -/
def MissedByListing {k : Kind} (events : List (WatchEvent k)) (ref : ObjectRef) : Prop :=
  ∃ since, LastWhere WatchEvent.MarksListing events .listingStarted since ∧
    ∀ o record, .listed o ∈ since → k.identify o ≠ .ok (ref, record)

/-- Of the events at the end, a start of a listing misses everything and its end nothing;
another event leaves what is missed, unless it lists the object. -/
theorem missedByListing_concat {k : Kind} {events : List (WatchEvent k)} {e : WatchEvent k}
    {ref : ObjectRef} :
    MissedByListing (events ++ [e]) ref ↔
      e = .listingStarted ∨ (e ≠ .listingDone ∧ MissedByListing events ref ∧
        ∀ o record, e = .listed o → k.identify o ≠ .ok (ref, record)) := by
  by_cases he : e.MarksListing
  · unfold MissedByListing
    simp only [lastWhere_concat_of_pos he]
    cases e with
    | listingStarted => simp
    | listingDone => simp
    | listed o => exact he.elim
    | changed o => exact he.elim
    | deleted o => exact he.elim
  · have hs : e ≠ .listingStarted := by
      rintro rfl
      exact he trivial
    have hd : e ≠ .listingDone := by
      rintro rfl
      exact he trivial
    unfold MissedByListing
    simp only [lastWhere_concat_of_not he]
    constructor
    · rintro ⟨_, ⟨since, rfl, hlast⟩, hfree⟩
      refine Or.inr ⟨hd, ⟨since, hlast, fun o record ho => hfree o record (by simp [ho])⟩, ?_⟩
      rintro o record rfl
      exact hfree o record (by simp)
    · rintro (h | ⟨_, ⟨since, hlast, hfree⟩, hother⟩)
      · exact absurd h hs
      · refine ⟨since ++ [e], ⟨since, rfl, hlast⟩, fun o record ho => ?_⟩
        rcases List.mem_append.mp ho with ho | ho
        · exact hfree o record ho
        · exact hother o record (by simpa [eq_comm] using ho)

/-! ## Histories of a tracker -/

namespace Tracker

variable {k : Kind}

/-- An event that was taken: the tracker before it, and the effects that it had. -/
structure Move (k : Kind) where
  before : Tracker k
  event : WatchEvent k
  effects : List Effect

namespace Move

/-- Whether a move leads from one tracker to another. -/
def Leads (t : Tracker k) (m : Move k) (t' : Tracker k) : Prop :=
  m.before = t ∧ t.Takes m.event t' m.effects

/-- **Whether a move deletes an object that is not known.** -/
def isStray (m : Move k) : Bool :=
  match m.event with
  | .deleted o => (k.identify o).toOption.any fun found => !m.before.known.contains found.1
  | _ => false

/-- The notices of a move for an object, unless the move is stray. -/
def noticesFor (ref : ObjectRef) (m : Move k) : List Notice :=
  if m.isStray then [] else PodDirectory.noticesFor ref m.effects

end Move

/-- **The notices for an object** in the course of some moves, apart from stray ones. -/
def life (ref : ObjectRef) (moves : List (Move k)) : List Notice :=
  moves.flatMap (Move.noticesFor ref)

/-- What is delivered continues the life of its object. -/
theorem lifecycle_deliver {t : Tracker k} {ref : ObjectRef} {life : List Notice}
    (h : Lifecycle k life t.known[ref]?) (ref' : ObjectRef) (record : k.Record)
    (initial : Bool) :
    Lifecycle k (life ++ noticesFor ref (t.deliver ref' record initial).2)
      (t.deliver ref' record initial).1.known[ref]? := by
  rw [getElem?_known_deliver]
  show Lifecycle k (life ++ noticesFor ref [.notify ref' (t.noticeOf ref' record initial)]) _
  rw [noticesFor_notify, noticesFor_nil]
  by_cases hr : ref' = ref
  · subst hr
    rw [if_pos rfl, if_pos rfl, noticeOf]
    cases hk : t.known[ref']? with
    | none => exact .added (hk ▸ h) record initial
    | some old => exact .updated (hk ▸ h) record
  · rw [if_neg hr, if_neg (Ne.symm hr), List.append_nil]
    exact h

/-- **A move continues the life of every object.** -/
theorem lifecycle_move {t t' : Tracker k} {e : WatchEvent k} {effects : List Effect}
    (step : Outcome t e t' effects) {ref : ObjectRef} {life : List Notice}
    (h : Lifecycle k life t.known[ref]?) :
    Lifecycle k (life ++ Move.noticesFor ref ⟨t, e, effects⟩) t'.known[ref]? := by
  cases step with
  | started => simpa [Move.noticesFor, Move.isStray] using h
  | @listed o ref' record ho => exact lifecycle_deliver (t := t.see ref') h ref' record _
  | @changed o ref' record ho => exact lifecycle_deliver h ref' record false
  | @deleted o ref' record ho =>
    rw [getElem?_known_delete]
    have hnotices : noticesFor ref (t.delete ref' record).2
        = if ref' = ref then [.deleted (.ofRecord k record)] else [] := noticesFor_notify ..
    have hstray : Move.isStray ⟨t, .deleted o, (t.delete ref' record).2⟩
        = !t.known.contains ref' := by
      simp [Move.isStray, ho, Except.toOption]
    unfold Move.noticesFor
    rw [hstray, hnotices]
    by_cases hr : ref' = ref
    · subst hr
      -- the deletion is stray exactly if the life is over already
      rw [ExtTreeMap.contains_eq_isSome_getElem?]
      cases hk : t.known[ref']? with
      | none => simpa [hk] using h
      | some last => simpa using Lifecycle.deleted (hk ▸ h) record
    · simpa [hr, Ne.symm hr] using h
  | dropped he ho =>
    unfold Move.noticesFor
    split <;> simpa using h
  | @done gone hgone =>
    show Lifecycle k (life ++ noticesFor ref (t.finishListing gone).2) _
    rw [noticesFor_finishListing, getElem?_known_finishListing]
    split
    · cases hk : t.known[ref]? with
      | none => simpa [hk] using h
      | some last => exact .deleted (hk ▸ h) last
    · simpa using h

/-- Where a path comes to a move, there is a path to the tracker before it. -/
theorem before_of_path {earlier later : List (Move k)} {m : Move k} {t t' : Tracker k}
    (path : Steps.Path Move.Leads t (earlier ++ m :: later) t') :
    Steps.Path Move.Leads t earlier m.before ∧
      ∃ after, Outcome m.before m.event after m.effects := by
  obtain ⟨mid, first, second⟩ := Steps.path_append_iff.mp path
  obtain ⟨after, ⟨rfl, htakes⟩, _⟩ := Steps.path_cons_iff.mp second
  exact ⟨first, after, htakes.outcome⟩

/-- **The notices of a new tracker for an object are a lifecycle**, and what the tracker
remembers of the object is the record at its end. -/
theorem lifecycle_life {moves : List (Move k)} {t : Tracker k}
    (path : Steps.Path Move.Leads {} moves t) (ref : ObjectRef) :
    Lifecycle k (life ref moves) t.known[ref]? := by
  induction moves using List.reverseRecOn generalizing t with
  | nil =>
    obtain rfl := Steps.path_nil_iff.mp path
    exact .unborn
  | append_singleton moves m ih =>
    obtain ⟨mid, first, rfl, htakes⟩ := Steps.path_concat_iff.mp path
    unfold life
    rw [List.flatMap_append, List.flatMap_singleton]
    exact lifecycle_move htakes.outcome (ih first)

/-- **The events tell what the listing under way has missed.** -/
theorem misses_iff_missedByListing {moves : List (Move k)} {t : Tracker k}
    (path : Steps.Path Move.Leads {} moves t) (ref : ObjectRef) :
    t.Misses ref ↔ MissedByListing (moves.map Move.event) ref := by
  induction moves using List.reverseRecOn generalizing t with
  | nil =>
    obtain rfl := Steps.path_nil_iff.mp path
    constructor
    · rintro ⟨_, h, _⟩
      cases h
    · rintro ⟨_, h, _⟩
      exact (not_lastWhere_nil h).elim
  | append_singleton moves m ih =>
    obtain ⟨mid, first, rfl, htakes⟩ := Steps.path_concat_iff.mp path
    rw [List.map_append, List.map_singleton, missedByListing_concat,
      htakes.outcome.misses_iff, ih first]

end Tracker

end PodDirectory
