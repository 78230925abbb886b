import PodDirectory.Tracker
import PodDirectory.Proofs.Histories

/-!
# What a tracker does at an event

When a listing is done, the objects that vanished are deleted one after the other.
`Tracker.step` visits them in the order of their refs, but nothing depends on that order and
nobody should rely on it. `Tracker.Takes` allows every order, and what is proved of it holds
whichever is taken; `Tracker.step` is one of its outcomes.

`Tracker.Takes.outcome` says once and for all what can come of an event, and all that is
proved of trackers goes through it. The laws before it say what each part of a tracker does
to the known objects and which notices it leaves, told apart by the object they are for:
`noticesFor ref` are the notices for one object among some effects.
-/

namespace PodDirectory

open Std (ExtTreeMap ExtTreeSet)

/-! ## Notices by object -/

/-- The notice of an effect, if it has one for this object. -/
def Effect.noticeFor? (ref : ObjectRef) : Effect → Option Notice
  | .notify ref' notice => if ref' = ref then some notice else none
  | _ => none

/-- **The notices for one object** among some effects, in order. -/
def noticesFor (ref : ObjectRef) (effects : List Effect) : List Notice :=
  effects.filterMap (Effect.noticeFor? ref)

@[simp] theorem noticesFor_nil (ref : ObjectRef) : noticesFor ref [] = [] := rfl

@[simp] theorem noticesFor_log (ref : ObjectRef) (event : LogEvent) (effects : List Effect) :
    noticesFor ref (.log event :: effects) = noticesFor ref effects := rfl

@[simp] theorem noticesFor_markListed (ref : ObjectRef) (k : Kind) (effects : List Effect) :
    noticesFor ref (.markListed k :: effects) = noticesFor ref effects := rfl

@[simp] theorem noticesFor_notify (ref ref' : ObjectRef) (notice : Notice)
    (effects : List Effect) :
    noticesFor ref (.notify ref' notice :: effects)
      = if ref' = ref then notice :: noticesFor ref effects else noticesFor ref effects := by
  unfold noticesFor
  by_cases h : ref' = ref <;> simp [Effect.noticeFor?, h]

@[simp] theorem noticesFor_append (ref : ObjectRef) (first second : List Effect) :
    noticesFor ref (first ++ second) = noticesFor ref first ++ noticesFor ref second :=
  List.filterMap_append

/-- An object has one ref and one record. -/
theorem Kind.identify_inj {k : Kind} {o : k.Object} {ref ref' : ObjectRef}
    {record record' : k.Record} (h : k.identify o = .ok (ref, record))
    (h' : k.identify o = .ok (ref', record')) : ref = ref' ∧ record = record' :=
  Prod.mk.inj (Except.ok.inj (h.symm.trans h'))

/-- An object that can be identified has no defect. -/
theorem Kind.identify_ne_error {k : Kind} {o : k.Object} {found : ObjectRef × k.Record}
    (h : k.identify o = .ok found) (defect : Defect) : k.identify o ≠ .error defect := by
  simp [h]

/-- The object of an event, if it is about one. -/
def WatchEvent.object? {k : Kind} : WatchEvent k → Option k.Object
  | .listed o | .changed o | .deleted o => some o
  | .listingStarted | .listingDone => none

/-! ## Entries of a table -/

section Entries

variable {α : Type} {table : ExtTreeMap ObjectRef α}

/-- What holds of the entries of a table and of a new one holds with the new one in it. -/
theorem forall_getElem?_insert {P : ObjectRef → α → Prop}
    (h : ∀ {ref a}, table[ref]? = some a → P ref a) {ref : ObjectRef} {a : α} (ha : P ref a)
    {ref' : ObjectRef} {a' : α} (h' : (table.insert ref a)[ref']? = some a') : P ref' a' := by
  rw [ExtTreeMap.getElem?_insert] at h'
  split at h'
  · next hsame =>
    obtain rfl := Std.LawfulEqCmp.compare_eq_iff_eq.mp hsame
    obtain rfl := Option.some.inj h'
    exact ha
  · exact h h'

/-- An entry that is left when another one is taken out has been there before. -/
theorem of_getElem?_erase {ref ref' : ObjectRef} {a : α}
    (h : (table.erase ref)[ref']? = some a) : table[ref']? = some a := by
  rw [ExtTreeMap.getElem?_erase] at h
  split at h
  · cases h
  · exact h

end Entries

namespace Tracker

variable {k : Kind}

/-! ## Single objects -/

theorem getElem?_known_deliver (t : Tracker k) (ref : ObjectRef) (record : k.Record)
    (initial : Bool) (ref' : ObjectRef) :
    (t.deliver ref record initial).1.known[ref']?
      = if ref' = ref then some record else t.known[ref']? := by
  show (t.known.insert ref record)[ref']? = _
  rw [ExtTreeMap.getElem?_insert]
  simp only [Std.LawfulEqCmp.compare_eq_iff_eq, eq_comm (a := ref')]

theorem getElem?_known_delete (t : Tracker k) (ref : ObjectRef) (record : k.Record)
    (ref' : ObjectRef) :
    (t.delete ref record).1.known[ref']? = if ref' = ref then none else t.known[ref']? := by
  show (t.known.erase ref)[ref']? = _
  rw [ExtTreeMap.getElem?_erase]
  simp only [Std.LawfulEqCmp.compare_eq_iff_eq, eq_comm (a := ref')]

/-! ## The end of a listing -/

/-- Whether the listing under way, if there is one, has not seen an object. -/
def Misses (t : Tracker k) (ref : ObjectRef) : Prop := ∃ seen, t.listing = some seen ∧ ref ∉ seen

/-- **The vanished objects** are the known ones that the listing under way has not seen. -/
theorem mem_vanished {t : Tracker k} {ref : ObjectRef} :
    ref ∈ t.vanished ↔ ref ∈ t.known ∧ t.Misses ref := by
  unfold vanished Misses
  cases t.listing with
  | none => simp
  | some seen => simp [Bool.eq_false_iff]

/-- What is known after objects are forgotten, whichever they are and in any order. -/
theorem getElem?_known_forget (t : Tracker k) (gone : List ObjectRef) (ref : ObjectRef) :
    (t.forget gone).1.known[ref]? = if ref ∈ gone then none else t.known[ref]? := by
  induction gone generalizing t with
  | nil => simp [forget]
  | cons g gone ih =>
    unfold forget
    -- what is not known, or no more, is passed over
    cases hg : t.known[g]? with
    | none =>
      rw [ih]
      by_cases h : ref = g
      · simp [h, hg]
      · simp [h]
    | some last =>
      show ((forget { t with known := t.known.erase g } gone).1.known)[ref]? = _
      rw [ih, ExtTreeMap.getElem?_erase]
      by_cases h : ref = g
      · simp [h]
      · simp [h, Ne.symm h]

/-- An object that is forgotten is deleted with its last record, and only if it is known. -/
theorem noticesFor_forget (t : Tracker k) (gone : List ObjectRef) (ref : ObjectRef) :
    noticesFor ref (t.forget gone).2
      = if ref ∈ gone then (t.known[ref]?).toList.map fun last => .deleted (.ofRecord k last)
        else [] := by
  induction gone generalizing t with
  | nil => simp [forget]
  | cons g gone ih =>
    unfold forget
    cases hg : t.known[g]? with
    | none =>
      rw [ih]
      by_cases h : ref = g
      · simp [h, hg]
      · simp [h]
    | some last =>
      show noticesFor ref (.log (.vanished k g) :: .notify g (.deleted (.ofRecord k last)) ::
        (forget { t with known := t.known.erase g } gone).2) = _
      rw [noticesFor_log, noticesFor_notify, ih]
      by_cases h : ref = g
      · simp [h, hg]
      · simp [h, Ne.symm h, ExtTreeMap.getElem?_erase]

/-- To forget objects is to say of each that it vanished and to delete it, and nothing else. -/
theorem exists_of_mem_forget {t : Tracker k} {gone : List ObjectRef} {effect : Effect}
    (h : effect ∈ (t.forget gone).2) :
    ∃ ref, effect = .log (.vanished k ref) ∨
      ∃ last, effect = .notify ref (.deleted (.ofRecord k last)) := by
  induction gone generalizing t with
  | nil => exact absurd h List.not_mem_nil
  | cons g gone ih =>
    unfold forget at h
    cases hg : t.known[g]? with
    | none =>
      rw [hg] at h
      exact ih h
    | some last =>
      rw [hg] at h
      rcases List.mem_cons.mp h with rfl | h
      · exact ⟨g, Or.inl rfl⟩
      rcases List.mem_cons.mp h with rfl | h
      · exact ⟨g, Or.inr ⟨last, rfl⟩⟩
      · exact ih h

theorem listing_forget (t : Tracker k) (gone : List ObjectRef) :
    (t.forget gone).1.listing = t.listing := by
  induction gone generalizing t with
  | nil => rfl
  | cons g gone ih =>
    unfold forget
    cases t.known[g]? with
    | none => exact ih t
    | some last => exact ih { t with known := t.known.erase g }

theorem getElem?_known_finishListing (t : Tracker k) (gone : List ObjectRef)
    (ref : ObjectRef) :
    (t.finishListing gone).1.known[ref]? = if ref ∈ gone then none else t.known[ref]? :=
  getElem?_known_forget { t with listing := none } gone ref

theorem listing_finishListing (t : Tracker k) (gone : List ObjectRef) :
    (t.finishListing gone).1.listing = none :=
  listing_forget { t with listing := none } gone

/-- The end of a listing leaves no notices but those for the objects forgotten. -/
theorem noticesFor_finishListing (t : Tracker k) (gone : List ObjectRef) (ref : ObjectRef) :
    noticesFor ref (t.finishListing gone).2
      = if ref ∈ gone then (t.known[ref]?).toList.map fun last => .deleted (.ofRecord k last)
        else [] := by
  refine Eq.trans ?_ (noticesFor_forget { t with listing := none } gone ref)
  unfold finishListing
  dsimp only
  split <;> simp

/-! ## Taking an event -/

/-- **Taking an event**, where the objects that vanished may be visited in any order. -/
inductive Takes (t : Tracker k) : WatchEvent k → Tracker k → List Effect → Prop where
  | step (e : WatchEvent k) : Takes t e (t.step e).1 (t.step e).2
  | listingDone {gone : List ObjectRef} (h : gone.Perm t.vanished) :
    Takes t .listingDone (t.finishListing gone).1 (t.finishListing gone).2

/-- **What can come of an event.** -/
inductive Outcome (t : Tracker k) : WatchEvent k → Tracker k → List Effect → Prop where
  | started :
    Outcome t .listingStarted { t with listing := some ∅ } [.log (.listingStarted k)]
  | listed {o : k.Object} {ref : ObjectRef} {record : k.Record}
    (h : k.identify o = .ok (ref, record)) :
    Outcome t (.listed o) ((t.see ref).deliver ref record (!t.listedOnce)).1
      ((t.see ref).deliver ref record (!t.listedOnce)).2
  | changed {o : k.Object} {ref : ObjectRef} {record : k.Record}
    (h : k.identify o = .ok (ref, record)) :
    Outcome t (.changed o) (t.deliver ref record false).1 (t.deliver ref record false).2
  | deleted {o : k.Object} {ref : ObjectRef} {record : k.Record}
    (h : k.identify o = .ok (ref, record)) :
    Outcome t (.deleted o) (t.delete ref record).1 (t.delete ref record).2
  | dropped {e : WatchEvent k} {o : k.Object} {defect : Defect} (he : e.object? = some o)
    (h : k.identify o = .error defect) : Outcome t e t [.log (.objectDropped k defect)]
  | done {gone : List ObjectRef} (h : gone.Perm t.vanished) :
    Outcome t .listingDone (t.finishListing gone).1 (t.finishListing gone).2

/-- What comes of an event about an object: if the object cannot be identified, it is
dropped. -/
theorem outcome_handle {t : Tracker k} {e : WatchEvent k} {o : k.Object}
    {act : ObjectRef → k.Record → Tracker k × List Effect} (he : e.object? = some o)
    (h : ∀ ref record, k.identify o = .ok (ref, record) →
      Outcome t e (act ref record).1 (act ref record).2) :
    Outcome t e (t.handle act (k.identify o)).1 (t.handle act (k.identify o)).2 := by
  cases ho : k.identify o with
  | ok identified => exact h _ _ ho
  | error defect => exact .dropped he ho

theorem outcome_step (t : Tracker k) (e : WatchEvent k) :
    Outcome t e (t.step e).1 (t.step e).2 := by
  cases e with
  | listingStarted => exact .started
  | listed o =>
    rw [step_listed]
    exact outcome_handle rfl fun _ _ h => .listed h
  | listingDone => exact .done (List.Perm.refl _)
  | changed o =>
    rw [step_changed]
    exact outcome_handle rfl fun _ _ h => .changed h
  | deleted o =>
    rw [step_deleted]
    exact outcome_handle rfl fun _ _ h => .deleted h

/-- **Nothing else can come of an event.** -/
theorem Takes.outcome {t t' : Tracker k} {e : WatchEvent k} {effects : List Effect}
    (h : t.Takes e t' effects) : Outcome t e t' effects := by
  cases h with
  | step => exact outcome_step t e
  | listingDone hgone => exact .done hgone

/-- **What can be done about an event**, one effect at a time. -/
inductive Causes : WatchEvent k → Effect → Prop where
  | started : Causes .listingStarted (.log (.listingStarted k))
  | delivered {e : WatchEvent k} {o : k.Object} (he : e = .listed o ∨ e = .changed o)
    (t : Tracker k) (ref : ObjectRef) (record : k.Record) (initial : Bool) :
    Causes e (.notify ref (t.noticeOf ref record initial))
  | deleted (o : k.Object) (ref : ObjectRef) (record : k.Record) :
    Causes (.deleted o) (.notify ref (.deleted (.ofRecord k record)))
  | dropped {e : WatchEvent k} {o : k.Object} {defect : Defect} (he : e.object? = some o)
    (h : k.identify o = .error defect) : Causes e (.log (.objectDropped k defect))
  | vanished (ref : ObjectRef) : Causes .listingDone (.log (.vanished k ref))
  | forgotten (ref : ObjectRef) (last : k.Record) :
    Causes .listingDone (.notify ref (.deleted (.ofRecord k last)))
  | firstListing (objects : Nat) : Causes .listingDone (.log (.firstListing k objects))
  | marked : Causes .listingDone (.markListed k)

/-- **Every effect has its cause in the event.** -/
theorem Outcome.causes {t t' : Tracker k} {e : WatchEvent k} {effects : List Effect}
    (h : Outcome t e t' effects) {effect : Effect} (hmem : effect ∈ effects) :
    Causes e effect := by
  cases h with
  | started =>
    obtain rfl := List.mem_singleton.mp hmem
    exact .started
  | listed ho =>
    obtain rfl := List.mem_singleton.mp hmem
    exact .delivered (Or.inl rfl) ..
  | changed ho =>
    obtain rfl := List.mem_singleton.mp hmem
    exact .delivered (Or.inr rfl) ..
  | deleted ho =>
    obtain rfl := List.mem_singleton.mp hmem
    exact .deleted ..
  | dropped he ho =>
    obtain rfl := List.mem_singleton.mp hmem
    exact .dropped he ho
  | done =>
    unfold finishListing at hmem
    rcases List.mem_append.mp hmem with hmem | hmem
    · rcases List.mem_append.mp hmem with hmem | hmem
      · obtain ⟨ref, rfl | ⟨last, rfl⟩⟩ := exists_of_mem_forget hmem
        · exact .vanished ref
        · exact .forgotten ref last
      · split at hmem
        · exact absurd hmem List.not_mem_nil
        · obtain rfl := List.mem_singleton.mp hmem
          exact .firstListing _
    · obtain rfl := List.mem_singleton.mp hmem
      exact .marked

/-! ## What has come of an event of one sort -/

section Outcome

variable {t t' : Tracker k} {e : WatchEvent k} {effects : List Effect} {o : k.Object}

/-- An event about an object that can be identified is not dropped. -/
theorem Outcome.of_identified (h : Outcome t e t' effects) (he : e.object? = some o)
    {ref : ObjectRef} {record : k.Record} (ho : k.identify o = .ok (ref, record)) :
    (e = .listed o ∧ t' = ((t.see ref).deliver ref record (!t.listedOnce)).1 ∧
        effects = ((t.see ref).deliver ref record (!t.listedOnce)).2) ∨
      (e = .changed o ∧ t' = (t.deliver ref record false).1 ∧
        effects = (t.deliver ref record false).2) ∨
      (e = .deleted o ∧ t' = (t.delete ref record).1 ∧
        effects = (t.delete ref record).2) := by
  cases h with
  | started => cases he
  | listed ho' =>
    cases he
    obtain ⟨rfl, rfl⟩ := Kind.identify_inj ho ho'
    exact Or.inl ⟨rfl, rfl, rfl⟩
  | changed ho' =>
    cases he
    obtain ⟨rfl, rfl⟩ := Kind.identify_inj ho ho'
    exact Or.inr (Or.inl ⟨rfl, rfl, rfl⟩)
  | deleted ho' =>
    cases he
    obtain ⟨rfl, rfl⟩ := Kind.identify_inj ho ho'
    exact Or.inr (Or.inr ⟨rfl, rfl, rfl⟩)
  | dropped he' ho' =>
    obtain rfl := Option.some.inj (he.symm.trans he')
    exact absurd ho' (Kind.identify_ne_error ho _)
  | done => cases he

/-- An event about an object that cannot be identified is dropped. -/
theorem Outcome.of_defective (h : Outcome t e t' effects) (he : e.object? = some o)
    {defect : Defect} (ho : k.identify o = .error defect) :
    t' = t ∧ effects = [.log (.objectDropped k defect)] := by
  cases h with
  | started => cases he
  | listed ho' =>
    cases he
    exact absurd ho (Kind.identify_ne_error ho' _)
  | changed ho' =>
    cases he
    exact absurd ho (Kind.identify_ne_error ho' _)
  | deleted ho' =>
    cases he
    exact absurd ho (Kind.identify_ne_error ho' _)
  | dropped he' ho' =>
    obtain rfl := Option.some.inj (he.symm.trans he')
    obtain rfl := Except.error.inj (ho.symm.trans ho')
    exact ⟨rfl, rfl⟩
  | done => cases he

/-- **What is known has been identified**: what holds of everything that is known and of the object
of an event holds of everything that is known afterwards. -/
theorem Outcome.forall_known (h : Outcome t e t' effects) {P : ObjectRef → k.Record → Prop}
    (hknown : ∀ {ref record}, t.known[ref]? = some record → P ref record)
    (hfound : ∀ {o ref record}, e.object? = some o → k.identify o = .ok (ref, record) →
      P ref record)
    {ref : ObjectRef} {record : k.Record} (hr : t'.known[ref]? = some record) : P ref record := by
  cases h with
  | started => exact hknown hr
  | listed ho => exact forall_getElem?_insert hknown (hfound rfl ho) hr
  | changed ho => exact forall_getElem?_insert hknown (hfound rfl ho) hr
  | deleted => exact hknown (of_getElem?_erase hr)
  | dropped => exact hknown hr
  | done =>
    rw [getElem?_known_finishListing] at hr
    exact hknown (Option.ite_none_left_eq_some.mp hr).2

theorem Outcome.of_listingStarted (h : Outcome t .listingStarted t' effects) :
    t' = { t with listing := some ∅ } ∧ effects = [.log (.listingStarted k)] := by
  cases h with
  | started => exact ⟨rfl, rfl⟩
  | dropped he => cases he

/-- The end of a listing forgets the vanished objects, in some order. -/
theorem Outcome.of_listingDone (h : Outcome t .listingDone t' effects) :
    ∃ gone : List ObjectRef, gone.Perm t.vanished ∧ t' = (t.finishListing gone).1 ∧
      effects = (t.finishListing gone).2 := by
  cases h with
  | dropped he => cases he
  | done hgone => exact ⟨_, hgone, rfl, rfl⟩

end Outcome

/-! ## What the listing under way has not seen -/

theorem misses_see {t : Tracker k} {ref ref' : ObjectRef} :
    (t.see ref).Misses ref' ↔ t.Misses ref' ∧ ref ≠ ref' := by
  unfold Misses see
  cases t.listing with
  | none => simp
  | some seen => simp [ExtTreeSet.mem_insert, and_comm]

/-- **A listing misses everything when it starts**, and every object until it is listed. -/
theorem Outcome.misses_iff {t t' : Tracker k} {e : WatchEvent k} {effects : List Effect}
    (h : Outcome t e t' effects) (ref : ObjectRef) :
    t'.Misses ref ↔ e = .listingStarted ∨ (e ≠ .listingDone ∧ t.Misses ref ∧
      ∀ o record, e = .listed o → k.identify o ≠ .ok (ref, record)) := by
  cases h with
  | started => simp [Misses]
  | @listed o ref' record ho =>
    have hlisting : ((t.see ref').deliver ref' record (!t.listedOnce)).1.Misses ref
        ↔ (t.see ref').Misses ref := Iff.rfl
    rw [hlisting, misses_see]
    constructor
    · rintro ⟨hm, hne⟩
      refine Or.inr ⟨by simp, hm, ?_⟩
      rintro o' record' ⟨rfl⟩ ho'
      exact hne (Kind.identify_inj ho ho').1
    · rintro (h | ⟨_, hm, hother⟩)
      · cases h
      · exact ⟨hm, fun h => hother o record rfl (h ▸ ho)⟩
  | changed ho =>
    show t.Misses ref ↔ _
    simp
  | deleted ho =>
    show t.Misses ref ↔ _
    simp
  | @dropped _ o defect he ho =>
    cases e with
    | listingStarted => cases he
    | listingDone => cases he
    | listed o' =>
      obtain rfl : o' = o := Option.some.inj he
      constructor
      · intro hm
        refine Or.inr ⟨by simp, hm, ?_⟩
        rintro _ record ⟨rfl⟩ ho'
        exact absurd ho (Kind.identify_ne_error ho' _)
      · rintro (h | ⟨_, hm, _⟩)
        · cases h
        · exact hm
    | changed o' => simp
    | deleted o' => simp
  | done hgone => simp [Misses, listing_finishListing]

end Tracker

end PodDirectory
