import Mathlib.Algebra.BigOperators.Group.List.Basic
import Mathlib.Algebra.GroupWithZero.Nat
import PodDirectory.Proofs.TrackerKinds

/-!
# What the counters of endpoint slices count

A directory stores no endpoint slices. It counts them, and it counts their addresses, going by
the notices alone. Both counters are kept in the same way: every slice has a weight, which is
one for the first counter and its number of addresses for the second; a slice that is added
comes in with its weight, one that is deleted goes out with it, and an update exchanges the
weight of the old record for that of the new one (`Notice.gain`).

A tracker remembers the slices, and their weights have a sum (`weigh`). Whatever event it takes,
the sum changes by as much as the counter does (`Tracker.Outcome.gain_eq`). Only a deletion that
is watched goes by the delivered record and not by the remembered one, so that counter and sum
can drift apart there and nowhere else.
-/

namespace PodDirectory

open Std (ExtTreeMap)

/-! ## What is added to a counter -/

variable (weight : SliceRecord → Nat)

/-- What two lists add together is what each of them adds. -/
theorem foldr_add_append {α : Type} (gain : α → Int64) (first second : List α) :
    (first ++ second).foldr (fun x sum => gain x + sum) 0
      = first.foldr (fun x sum => gain x + sum) 0 + second.foldr (fun x sum => gain x + sum) 0 := by
  induction first with
  | nil => exact (Int64.zero_add _).symm
  | cons x first ih => rw [List.cons_append, List.foldr_cons, ih, List.foldr_cons, Int64.add_assoc]

/-- **What a notice adds to a counter** of slices that weigh so much. -/
def Notice.gain : Notice → Int64
  | .added (.slice s) _ => Int64.ofNat (weight s)
  | .updated (.slice old) (.slice s) => Int64.ofNat (weight s) - Int64.ofNat (weight old)
  | .deleted (.slice s) => -Int64.ofNat (weight s)
  | _ => 0

/-- What an effect adds to a counter. -/
def Effect.gain : Effect → Int64
  | .notify _ notice => notice.gain weight
  | _ => 0

/-- What effects add to a counter. -/
def gainOf (effects : List Effect) : Int64 := effects.foldr (fun e sum => e.gain weight + sum) 0

@[simp] theorem gainOf_nil : gainOf weight [] = 0 := rfl

@[simp] theorem gainOf_cons (e : Effect) (effects : List Effect) :
    gainOf weight (e :: effects) = e.gain weight + gainOf weight effects := rfl

theorem gainOf_append (first second : List Effect) :
    gainOf weight (first ++ second) = gainOf weight first + gainOf weight second :=
  foldr_add_append _ first second

namespace Directory

/-- **The counters of a directory go by the notices.** -/
theorem slices_apply (d : Directory) (n : Notice) :
    (d.apply n).1.slices = d.slices + n.gain (fun _ => 1) ∧
      (d.apply n).1.sliceAddresses = d.sliceAddresses + n.gain (·.addressCount) := by
  have unchanged : d.slices = d.slices + 0 ∧ d.sliceAddresses = d.sliceAddresses + 0 :=
    ⟨(Int64.add_zero _).symm, (Int64.add_zero _).symm⟩
  cases n with
  | added what initial =>
    cases what with
    | slice s => exact ⟨rfl, rfl⟩
    | pod | node => exact unchanged
  | updated old new =>
    cases old with
    | pod | node => cases new <;> exact unchanged
    | slice old =>
      cases new with
      | slice s =>
        -- one slice goes out and one comes in
        have hone : (0 : Int64) = Int64.ofNat 1 - Int64.ofNat 1 := by decide
        exact ⟨congrArg (d.slices + ·) hone, rfl⟩
      | pod | node => exact unchanged
  | deleted what =>
    cases what with
    | slice s => exact ⟨rfl, rfl⟩
    | pod | node => exact unchanged

/-- The counters go by the notices among some effects. -/
theorem slices_performAll (d : Directory) (effects : List Effect) :
    (d.performAll effects).1.slices = d.slices + gainOf (fun _ => 1) effects ∧
      (d.performAll effects).1.sliceAddresses
        = d.sliceAddresses + gainOf (·.addressCount) effects := by
  induction effects generalizing d with
  | nil => exact ⟨(Int64.add_zero _).symm, (Int64.add_zero _).symm⟩
  | cons e effects ih =>
    have first : (d.perform e).1.slices = d.slices + e.gain (fun _ => 1) ∧
        (d.perform e).1.sliceAddresses = d.sliceAddresses + e.gain (·.addressCount) := by
      cases e with
      | notify ref notice => exact d.slices_apply notice
      | log | markListed => exact ⟨(Int64.add_zero _).symm, (Int64.add_zero _).symm⟩
    obtain ⟨hslices, haddresses⟩ := ih (d.perform e).1
    rw [first.1, Int64.add_assoc] at hslices
    rw [first.2, Int64.add_assoc] at haddresses
    exact ⟨hslices, haddresses⟩

end Directory

/-! ## What the known slices weigh -/

section Weigh

variable (known : ExtTreeMap ObjectRef SliceRecord) (ref : ObjectRef)

/-- **The weight of all known slices.** -/
def weigh : Nat := (known.toList.map fun entry => weight entry.2).sum

/-- The weight of the slice that is known under a ref. -/
def weightAt : Nat := (known[ref]?.map weight).getD 0

/-- What is known under a ref is one entry of the table, and the rest is the table without
it. -/
theorem toList_perm_cons_erase {s : SliceRecord} (h : known[ref]? = some s) :
    known.toList.Perm ((ref, s) :: (known.erase ref).toList) := by
  have nodup : ∀ known : ExtTreeMap ObjectRef SliceRecord, known.toList.Nodup := fun known =>
    known.distinct_keys_toList.imp fun {a b} hab he => hab (by simp [he])
  have hrest : (ref, s) ∉ (known.erase ref).toList := by
    simp [ExtTreeMap.mem_toList_iff_getElem?_eq_some]
  refine (List.perm_ext_iff_of_nodup (nodup _) (List.nodup_cons.mpr ⟨hrest, nodup _⟩)).mpr ?_
  rintro ⟨ref', s'⟩
  simp only [List.mem_cons, Prod.mk.injEq, ExtTreeMap.mem_toList_iff_getElem?_eq_some,
    ExtTreeMap.getElem?_erase, Std.LawfulEqCmp.compare_eq_iff_eq]
  by_cases href : ref = ref'
  · subst href
    simp [h, eq_comm]
  · simp [href, Ne.symm href]

/-- Whoever is forgotten goes out with the weight of the last record. -/
theorem weigh_erase :
    weigh weight (known.erase ref) + weightAt weight known ref = weigh weight known := by
  unfold weigh weightAt
  cases h : known[ref]? with
  | none =>
    have herase : known.erase ref = known := by
      refine ExtTreeMap.ext_getElem? fun ref' => ?_
      rw [ExtTreeMap.getElem?_erase]
      split
      · next href => rw [← Std.LawfulEqCmp.compare_eq_iff_eq.mp href, h]
      · rfl
    rw [herase]
    rfl
  | some s =>
    rw [((toList_perm_cons_erase known ref h).map _).sum_eq, List.map_cons, List.sum_cons,
      Nat.add_comm]
    rfl

/-- Whoever is remembered comes in with the weight of the new record, and goes out with that of
the last one. -/
theorem weigh_insert (s : SliceRecord) :
    weigh weight (known.insert ref s) + weightAt weight known ref
      = weigh weight known + weight s := by
  have hnew : weightAt weight (known.insert ref s) ref = weight s := by simp [weightAt]
  have herase : (known.insert ref s).erase ref = known.erase ref := by
    refine ExtTreeMap.ext_getElem? fun ref' => ?_
    rw [ExtTreeMap.getElem?_erase, ExtTreeMap.getElem?_erase, ExtTreeMap.getElem?_insert]
    split <;> rfl
  have hinsert := weigh_erase weight (known.insert ref s) ref
  have hknown := weigh_erase weight known ref
  rw [herase, hnew] at hinsert
  omega

end Weigh

/-! ## Trackers -/

namespace Tracker

variable {t t' : Tracker .endpointSlice} {e : WatchEvent .endpointSlice} {effects : List Effect}

/-- A slice that is delivered changes a counter by as much as the known slices. -/
theorem gain_deliver (t : Tracker .endpointSlice) (ref : ObjectRef) (s : SliceRecord)
    (initial : Bool) :
    Int64.ofNat (weigh weight t.known) + gainOf weight (t.deliver ref s initial).2
      = Int64.ofNat (weigh weight (t.known.insert ref s)) := by
  have hweigh := weigh_insert weight t.known ref s
  show _ + (Notice.gain weight (t.noticeOf ref s initial) + 0) = _
  unfold noticeOf
  unfold weightAt at hweigh
  cases hold : t.known[ref]? with
  | none =>
    have hsum : weigh weight (t.known.insert ref s) = weigh weight t.known + weight s := by
      simpa [hold] using hweigh
    show _ + (Int64.ofNat (weight s) + 0) = _
    rw [hsum, Int64.ofNat_add, Int64.add_zero]
  | some old =>
    have hsum : Int64.ofNat (weigh weight (t.known.insert ref s)) + Int64.ofNat (weight old)
        = Int64.ofNat (weigh weight t.known) + Int64.ofNat (weight s) := by
      rw [← Int64.ofNat_add, ← Int64.ofNat_add, ← hweigh, hold]
      rfl
    show _ + (Int64.ofNat (weight s) - Int64.ofNat (weight old) + 0) = _
    grind

/-- Slices that are forgotten change a counter by as much as the known slices. -/
theorem gain_forget (t : Tracker .endpointSlice) (gone : List ObjectRef) :
    Int64.ofNat (weigh weight t.known) + gainOf weight (t.forget gone).2
      = Int64.ofNat (weigh weight (t.forget gone).1.known) := by
  induction gone generalizing t with
  | nil => exact Int64.add_zero _
  | cons g gone ih =>
    unfold forget
    cases hg : t.known[g]? with
    | none => exact ih t
    | some last =>
      have hrest := ih { t with known := t.known.erase g }
      have hsum : Int64.ofNat (weigh weight (t.known.erase g)) + Int64.ofNat (weight last)
          = Int64.ofNat (weigh weight t.known) := by
        rw [← Int64.ofNat_add, ← weigh_erase weight t.known g]
        simp [weightAt, hg]
      show _ + (0 + (-Int64.ofNat (weight last) + gainOf weight _)) = Int64.ofNat (weigh weight
        (forget { t with known := t.known.erase g } gone).1.known)
      grind

/-- **A counter and what the known slices weigh change by the same amount**, except where a
deletion is watched. -/
theorem Outcome.gain_eq (h : Outcome t e t' effects)
    (he : ∀ o, e ≠ .deleted o) :
    Int64.ofNat (weigh weight t.known) + gainOf weight effects
      = Int64.ofNat (weigh weight t'.known) := by
  cases h with
  | started => exact Int64.add_zero _
  | listed => exact gain_deliver weight _ _ _ _
  | changed => exact gain_deliver weight _ _ _ _
  | deleted => exact absurd rfl (he _)
  | dropped => exact Int64.add_zero _
  | @done gone =>
    have hrest : gainOf weight (t.finishListing gone).2
        = gainOf weight (forget { t with listing := none } gone).2 := by
      unfold finishListing
      dsimp only
      rw [gainOf_append, gainOf_append]
      split <;> simp [Effect.gain]
    rw [hrest]
    exact gain_forget weight { t with listing := none } gone

/-- Events that delete nothing change a counter by as much as the known slices. -/
theorem gain_run (t : Tracker .endpointSlice) {events : List (WatchEvent .endpointSlice)}
    (h : ∀ e ∈ events, ∀ o, e ≠ .deleted o) :
    Int64.ofNat (weigh weight t.known) + gainOf weight (t.run events).2
      = Int64.ofNat (weigh weight (t.run events).1.known) := by
  induction events generalizing t with
  | nil => exact Int64.add_zero _
  | cons e events ih =>
    have hfirst := (outcome_step t e).gain_eq weight (h e List.mem_cons_self)
    have hrest := ih (t.step e).1 fun e' he' => h e' (List.mem_cons_of_mem e he')
    show _ + gainOf weight ((t.step e).2 ++ ((t.step e).1.run events).2)
      = Int64.ofNat (weigh weight ((t.step e).1.run events).1.known)
    rw [gainOf_append, ← Int64.add_assoc, hfirst, hrest]

end Tracker

end PodDirectory
