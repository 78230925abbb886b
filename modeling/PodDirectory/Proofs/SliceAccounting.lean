import PodDirectory.Proofs.Interleavings

/-!
# How far the counters of slices are off

The counters of slices go by the notices, and a tracker goes by the objects. The two come to the
same with every event but one: a deletion that is watched is passed on with the delivered record,
and the tracker forgets the record that it remembers. If these weigh different amounts, the
counter is off by the difference from then on, and if the slice was not known at all, by what was
delivered.

`Tracker.deletions` lists these deletions, each with both records. The counters are then told
exactly (`Monitor.slices_eq_of_path`): they show what the tracker knows, and what all deletions so
far have put them off by. Nothing else leaves a trace, neither re-lists nor listings broken off nor
slices that vanished.
-/

namespace PodDirectory

open Std (ExtTreeMap)

variable (weight : SliceRecord → Nat)

/-! ## Deletions -/

/-- **A deletion of a slice that was watched**: the record that was remembered then, if the slice
was known, and the record that was delivered. -/
structure Deletion where
  remembered : Option SliceRecord
  delivered : SliceRecord
deriving DecidableEq, Repr

/-- How much a deletion puts a counter off: what is forgotten weighs so much more than what is
subtracted. -/
def Deletion.offset (d : Deletion) : Int64 :=
  Int64.ofNat ((d.remembered.map weight).getD 0) - Int64.ofNat (weight d.delivered)

/-- How much deletions put a counter off together. -/
def offsetOf (deletions : List Deletion) : Int64 :=
  deletions.foldr (fun d sum => d.offset weight + sum) 0

@[simp] theorem offsetOf_nil : offsetOf weight [] = 0 := rfl

@[simp] theorem offsetOf_cons (d : Deletion) (deletions : List Deletion) :
    offsetOf weight (d :: deletions) = d.offset weight + offsetOf weight deletions := rfl

theorem offsetOf_append (first second : List Deletion) :
    offsetOf weight (first ++ second) = offsetOf weight first + offsetOf weight second :=
  foldr_add_append _ first second

/-- Deletions that deliver what is remembered put no counter off. -/
theorem offsetOf_eq_zero {deletions : List Deletion}
    (h : ∀ d ∈ deletions, ∃ s, d.remembered = some s ∧ weight s = weight d.delivered) :
    offsetOf weight deletions = 0 := by
  induction deletions with
  | nil => rfl
  | cons d deletions ih =>
    obtain ⟨s, hs, hweight⟩ := h d List.mem_cons_self
    rw [offsetOf_cons, ih fun d' hd' => h d' (List.mem_cons_of_mem d hd'), Deletion.offset, hs,
      ← hweight]
    simp

/-- Where every slice weighs one, a counter is off by the number of unknown slices deleted. -/
theorem offsetOf_one (deletions : List Deletion) :
    offsetOf (fun _ => 1) deletions
      = -Int64.ofNat (deletions.countP fun d => d.remembered.isNone) := by
  induction deletions with
  | nil => rfl
  | cons d deletions ih =>
    rw [offsetOf_cons, ih, List.countP_cons, Deletion.offset]
    cases d.remembered with
    | none =>
      show Int64.ofNat 0 - Int64.ofNat 1 + _ = -Int64.ofNat (_ + 1)
      rw [Int64.ofNat_add]
      grind
    | some s => simp

namespace Tracker

variable (t : Tracker .endpointSlice)

/-- The deletion that an event is, if it is about a slice that can be identified. -/
def deletion? : WatchEvent .endpointSlice → Option Deletion
  | .deleted o =>
    match Kind.identify .endpointSlice o with
    | .ok (ref, s) => some ⟨t.known[ref]?, s⟩
    | .error _ => none
  | _ => none

/-- **The deletions among some events**, each with what is remembered when it arrives. -/
def deletions : Tracker .endpointSlice → List (WatchEvent .endpointSlice) → List Deletion
  | _, [] => []
  | t, e :: events => (t.deletion? e).toList ++ (t.step e).1.deletions events

variable {t} {t' : Tracker .endpointSlice} {e : WatchEvent .endpointSlice}
  {effects : List Effect}

/-- **A counter and what the known slices weigh change by the same amount**, apart from what a
deletion puts the counter off by. -/
theorem Outcome.gain_eq_offset (h : Outcome t e t' effects) :
    Int64.ofNat (weigh weight t.known) + gainOf weight effects
      = Int64.ofNat (weigh weight t'.known) + offsetOf weight (t.deletion? e).toList := by
  by_cases hdeleted : ∃ o, e = .deleted o
  · obtain ⟨o, rfl⟩ := hdeleted
    cases hi : Kind.identify .endpointSlice o with
    | error defect =>
      obtain ⟨rfl, rfl⟩ := h.of_defective rfl hi
      simp [deletion?, hi, Effect.gain]
    | ok found =>
      obtain ⟨ref, s⟩ := found
      obtain ⟨⟨⟩, _⟩ | ⟨⟨⟩, _⟩ | ⟨_, rfl, rfl⟩ := h.of_identified rfl hi
      -- what is remembered goes out of the table, and what is delivered goes out of the counter
      have hweigh : Int64.ofNat (weigh weight (t.known.erase ref))
          + Int64.ofNat (weightAt weight t.known ref) = Int64.ofNat (weigh weight t.known) := by
        rw [← Int64.ofNat_add, weigh_erase]
      have hoffset : offsetOf weight (t.deletion? (.deleted o)).toList
          = Int64.ofNat (weightAt weight t.known ref) - Int64.ofNat (weight s) + 0 := by
        simp only [deletion?, hi]
        rfl
      rw [hoffset, ← hweigh]
      show _ + _ + (-Int64.ofNat (weight s) + 0) = Int64.ofNat (weigh weight (t.known.erase ref)) + _
      grind
  · have hother : ∀ o, e ≠ .deleted o := fun o he => hdeleted ⟨o, he⟩
    have hnone : t.deletion? e = none := by
      unfold deletion?
      split
      · exact absurd rfl (hother _)
      · rfl
    rw [h.gain_eq weight hother, hnone]
    exact (Int64.add_zero _).symm

/-- Slices may be visited in any order at the end of a listing: the tracker is the same. -/
theorem Takes.eq_step (h : t.Takes e t' effects) : t' = (t.step e).1 :=
  (Reflected.takes (k := .endpointSlice) (d := .new .empty false) trivial h).1

end Tracker

/-! ## Steps that matter to slices -/

/-- Whether a notice tells of a slice. An update that would change the kind of an object is
dropped, and tells of none. -/
def Notice.TellsOfSlice : Notice → Prop
  | .added (.slice _) _ | .updated (.slice _) (.slice _) | .deleted (.slice _) => True
  | _ => False

instance : (n : Notice) → Decidable n.TellsOfSlice
  | .added (.slice _) _ | .updated (.slice _) (.slice _) | .deleted (.slice _) =>
    inferInstanceAs (Decidable True)
  | .added (.pod _) _ | .added (.node _) _ | .updated (.pod _) _ | .updated (.node _) _
  | .updated (.slice _) (.pod _) | .updated (.slice _) (.node _) | .deleted (.pod _)
  | .deleted (.node _) => inferInstanceAs (Decidable False)

/-- A notice that tells of no slice adds nothing to a counter. -/
theorem Notice.gain_of_not_tellsOfSlice {n : Notice} (h : ¬ n.TellsOfSlice) :
    n.gain weight = 0 := by
  unfold gain
  split
  · exact absurd trivial h
  · exact absurd trivial h
  · exact absurd trivial h
  · rfl

/-- Effects of another kind add nothing to a counter. -/
theorem gainOf_of_isOfKind {k : Kind} (hk : k ≠ .endpointSlice) {effects : List Effect}
    (h : ∀ effect ∈ effects, effect.IsOfKind k) : gainOf weight effects = 0 := by
  induction effects with
  | nil => rfl
  | cons effect effects ih =>
    have hown := h effect List.mem_cons_self
    rw [gainOf_cons, ih fun effect' hmem => h effect' (List.mem_cons_of_mem _ hmem)]
    cases effect with
    | notify ref notice =>
      show notice.gain weight + 0 = 0
      rw [Directory.gain_of_isOfKind hk hown, Int64.add_zero]
    | log | markListed => rfl

/-- **Whether a step leaves slices to their tracker**: it neither tells of a slice itself nor
replaces the tracker. -/
def MonitorStep.SparesSlices : MonitorStep → Prop
  | .notify notice => ¬ notice.TellsOfSlice
  | .restart k => k ≠ .endpointSlice
  | _ => True

instance : (s : MonitorStep) → Decidable s.SparesSlices
  | .notify notice => inferInstanceAs (Decidable (¬ notice.TellsOfSlice))
  | .restart k => inferInstanceAs (Decidable (k ≠ .endpointSlice))
  | .mark _ | .watch _ _ | .wait _ => inferInstanceAs (Decidable True)

/-! ## Counters along a history -/

/-- **A counter of what slices weigh**: notices change it, and nothing else does. -/
structure IsCounter (counter : Directory → Int64) : Prop where
  new : ∀ required logsNodeUpdates, counter (.new required logsNodeUpdates) = 0
  apply : ∀ d n, counter (d.apply n).1 = counter d + n.gain weight
  performAll : ∀ d effects, counter (d.performAll effects).1 = counter d + gainOf weight effects
  markListed : ∀ d k, counter (d.markListed k).1 = counter d
  conclude : ∀ d result, counter (d.conclude result).1 = counter d

theorem isCounter_slices : IsCounter (fun _ => 1) Directory.slices where
  new _ _ := rfl
  apply d n := (d.slices_apply n).1
  performAll d effects := (d.slices_performAll effects).1
  markListed _ _ := rfl
  conclude d result := by cases result <;> rfl

theorem isCounter_sliceAddresses : IsCounter (·.addressCount) Directory.sliceAddresses where
  new _ _ := rfl
  apply d n := (d.slices_apply n).2
  performAll d effects := (d.slices_performAll effects).2
  markListed _ _ := rfl
  conclude d result := by cases result <;> rfl

namespace IsCounter

variable {weight} {counter : Directory → Int64} (hc : IsCounter weight counter) {m m' : Monitor}
  {s : MonitorStep}
include hc

/-- An event at the tracker of slices changes the counter by as much as what is known, apart from
what a deletion puts it off by. -/
theorem of_watch {e : WatchEvent .endpointSlice}
    (h : Monitor.Takes m (.watch .endpointSlice e) m') :
    m'.slices = (m.slices.step e).1 ∧
      counter m'.directory + Int64.ofNat (weigh weight m.slices.known)
        = counter m.directory + Int64.ofNat (weigh weight m'.slices.known)
          + offsetOf weight (m.slices.deletion? e).toList := by
  obtain ⟨t, effects, ht, rfl⟩ := h.watched
  refine ⟨ht.eq_step, ?_⟩
  have hgain : Int64.ofNat (weigh weight m.slices.known) + gainOf weight effects
      = Int64.ofNat (weigh weight t.known) + offsetOf weight (m.slices.deletion? e).toList :=
    ht.outcome.gain_eq_offset weight
  show counter (m.directory.performAll effects).1 + Int64.ofNat (weigh weight m.slices.known)
    = counter m.directory + Int64.ofNat (weigh weight t.known) + _
  rw [hc.performAll, Int64.add_assoc, Int64.add_comm (gainOf weight effects), hgain,
    Int64.add_assoc]

/-- Nothing else changes the counter or the tracker. -/
theorem of_other (h : Monitor.Takes m s m') (hspare : s.SparesSlices)
    (hs : s.event? .endpointSlice = none) :
    m'.slices = m.slices ∧ counter m'.directory = counter m.directory := by
  have hkept : s ≠ .restart .endpointSlice := by
    rintro rfl
    exact hspare rfl
  refine ⟨h.tracker_eq hkept hs, ?_⟩
  cases s with
  | notify notice =>
    cases h
    show counter (m.directory.apply notice).1 = _
    rw [hc.apply, Notice.gain_of_not_tellsOfSlice weight hspare, Int64.add_zero]
  | mark k =>
    cases h
    exact hc.markListed _ _
  | watch k e =>
    obtain ⟨t, effects, ht, rfl⟩ := h.watched
    have hk : k ≠ .endpointSlice := by
      rintro rfl
      simp at hs
    show counter (m.directory.performAll effects).1 = _
    rw [hc.performAll, gainOf_of_isOfKind weight hk ht.outcome.isOfKind, Int64.add_zero]
  | restart k =>
    cases h
    cases k <;> rfl
  | wait step =>
    cases h
    show counter (m.wait step).1.directory = _
    unfold Monitor.wait
    cases m.waiters.step m.directory.readiness.poll step with
    | mk waiters found =>
      cases found with
      | none => rfl
      | some result => exact hc.conclude _ _

/-- **Along any history a counter and what the known slices weigh change by the same amount**,
apart from what the deletions put the counter off by. -/
theorem of_path {steps : List MonitorStep} (path : Steps.Path Monitor.Takes m steps m')
    (hspare : ∀ s ∈ steps, s.SparesSlices) :
    counter m'.directory + Int64.ofNat (weigh weight m.slices.known)
      = counter m.directory + Int64.ofNat (weigh weight m'.slices.known)
        + offsetOf weight
          (m.slices.deletions (steps.filterMap (MonitorStep.event? .endpointSlice))) := by
  induction path with
  | nil => exact (Int64.add_zero _).symm
  | @cons m next last s steps first rest ih =>
    have hrest := ih fun s' hs' => hspare s' (List.mem_cons_of_mem _ hs')
    cases hs : s.event? .endpointSlice with
    | none =>
      obtain ⟨hslices, hcounter⟩ := hc.of_other first (hspare s List.mem_cons_self) hs
      rw [List.filterMap_cons_none hs, ← hslices, ← hcounter]
      exact hrest
    | some e =>
      obtain rfl := MonitorStep.eq_watch_of_event? hs
      obtain ⟨hslices, hcounter⟩ := hc.of_watch first
      rw [List.filterMap_cons_some hs, Tracker.deletions, offsetOf_append, ← hslices]
      grind

/-- **A counter shows what the known slices weigh**, and what the deletions have put it off by. -/
theorem eq_of_path {required : KindSet} {logsNodeUpdates : Bool} {steps : List MonitorStep}
    (path : Steps.Path Monitor.Takes { directory := .new required logsNodeUpdates } steps m)
    (hspare : ∀ s ∈ steps, s.SparesSlices) :
    counter m.directory = Int64.ofNat (weigh weight m.slices.known) + offsetOf weight
      (Tracker.deletions {} (steps.filterMap (MonitorStep.event? .endpointSlice))) := by
  have hpath := hc.of_path path hspare
  have hstart : weigh weight (∅ : ExtTreeMap ObjectRef SliceRecord) = 0 := rfl
  rw [hc.new, hstart, Int64.zero_add] at hpath
  exact (Int64.add_zero _).symm.trans hpath

end IsCounter

/-! ## The two counters -/

/-- Where every slice weighs one, the known slices weigh as much as they are. -/
theorem weigh_one (known : ExtTreeMap ObjectRef SliceRecord) :
    weigh (fun _ => 1) known = known.size := by
  simp [weigh, List.map_const']

/-- **The difference of two numbers of addresses is exact**, as long as each of them fits into a
counter. -/
theorem Directory.toInt_addressesOf_sub {old new : SliceRecord} (hold : old.addressCount < 2 ^ 63)
    (hnew : new.addressCount < 2 ^ 63) :
    (addressesOf new - addressesOf old).toInt = (new.addressCount : Int) - old.addressCount := by
  unfold addressesOf
  rw [Int64.toInt_sub, Int64.toInt_ofNat_of_lt hnew, Int64.toInt_ofNat_of_lt hold]
  exact Int.bmod_eq_of_le (by omega) (by omega)

namespace Monitor

/-- **What the counters of slices show**, whatever happens to a monitor in which nobody but one
tracker tells of slices. There are as many slices counted as are known, less one for every
deletion of a slice that was not known. There are as many addresses counted as the known slices
have, and every deletion adds what was remembered of the slice and takes away what was delivered.
So if all deletions deliver as many addresses as are remembered, both counters are exact. When a
slice is updated, the difference of two numbers of addresses goes into the counter as it is, as
long as each of them fits. -/
theorem slices_eq_of_path {required : KindSet} {logsNodeUpdates : Bool}
    {steps : List MonitorStep} {m : Monitor}
    (path : Steps.Path Takes { directory := .new required logsNodeUpdates } steps m)
    (hspare : ∀ s ∈ steps, s.SparesSlices) :
    let deletions := Tracker.deletions {} (steps.filterMap (MonitorStep.event? .endpointSlice))
    m.directory.stats.slices = Int64.ofNat m.slices.known.size
        - Int64.ofNat (deletions.countP fun d => d.remembered.isNone) ∧
      m.directory.stats.sliceAddresses = Int64.ofNat (weigh (·.addressCount) m.slices.known)
        + offsetOf (·.addressCount) deletions ∧
      ((∀ d ∈ deletions, ∃ s, d.remembered = some s ∧ s.addressCount = d.delivered.addressCount) →
        m.directory.stats.slices = Int64.ofNat m.slices.known.size ∧
        m.directory.stats.sliceAddresses
          = Int64.ofNat (weigh (·.addressCount) m.slices.known)) ∧
      ∀ old new : SliceRecord, old.addressCount < 2 ^ 63 → new.addressCount < 2 ^ 63 →
        (Directory.addressesOf new - Directory.addressesOf old).toInt
          = (new.addressCount : Int) - old.addressCount := by
  intro deletions
  have hslices : m.directory.slices = Int64.ofNat m.slices.known.size
      + offsetOf (fun _ => 1) deletions := by
    rw [← weigh_one]
    exact isCounter_slices.eq_of_path path hspare
  have haddresses : m.directory.sliceAddresses
      = Int64.ofNat (weigh (·.addressCount) m.slices.known) + offsetOf (·.addressCount) deletions :=
    isCounter_sliceAddresses.eq_of_path path hspare
  refine ⟨?_, haddresses, fun hsame => ⟨?_, ?_⟩, fun _ _ => Directory.toInt_addressesOf_sub⟩
  · rw [Int64.sub_eq_add_neg, ← offsetOf_one]
    exact hslices
  · have hknown : ∀ d ∈ deletions, ∃ s, d.remembered = some s ∧ 1 = 1 := fun d hd =>
      (hsame d hd).imp fun _ h => ⟨h.1, rfl⟩
    rw [offsetOf_eq_zero _ hknown, Int64.add_zero] at hslices
    exact hslices
  · rw [offsetOf_eq_zero _ hsame, Int64.add_zero] at haddresses
    exact haddresses

/-- Three slices are listed, one of them without a namespace, and one vanishes. If another one is
deleted as it is known, the counters are exact. They are off when a slice is deleted with an older
record, when it is deleted twice, and when it was never known. -/
theorem slices_eq_of_deletions :
    let slice (name : String) (ns : Option String) (addresses : List String) : EndpointSlice :=
      { metadata := { name := some name, ns }, endpoints := [{ addresses }] }
    let a := slice "a" none ["10.0.0.1", "10.0.0.2"]
    let d := slice "d" (some "c") ["10.0.0.3"]
    let exact : List MonitorStep := [.watch .endpointSlice .listingStarted,
      .watch .endpointSlice (.listed a), .watch .endpointSlice (.listed (slice "b" (some "c") [])),
      .watch .endpointSlice (.listed (slice "d" (some "c") [])),
      .watch .endpointSlice .listingDone, .watch .endpointSlice .listingStarted,
      .watch .endpointSlice (.listed a), .watch .endpointSlice (.listed d),
      .watch .endpointSlice .listingDone, .notify (.added (.node { name := "n" }) true),
      .watch .endpointSlice (.deleted d)]
    let steps := exact ++ [.watch .endpointSlice (.deleted d),
      .watch .endpointSlice (.changed (slice "a" none [])), .watch .endpointSlice (.deleted a),
      .watch .endpointSlice (.deleted (slice "d" none []))]
    let start : Monitor := { directory := .new Directory.defaultRequired false }
    (∀ s ∈ steps, s.SparesSlices) ∧
      (start.run exact).1.directory.stats.slices = 1 ∧
      (start.run exact).1.directory.stats.sliceAddresses = 2 ∧
      (start.run steps).1.directory.stats.slices = -2 ∧
      (start.run steps).1.directory.stats.sliceAddresses = -3 ∧
      (Directory.addressesOf { name := "a", ns := "", addressCount := 0 }
        - Directory.addressesOf { name := "a", ns := "", addressCount := 2 ^ 63 - 1 }).toInt
        = -(2 ^ 63 - 1) := by
  intro slice a d exact steps start
  have hspare : ∀ s ∈ steps, s.SparesSlices := by decide
  have hspareExact : ∀ s ∈ exact, s.SparesSlices := by decide
  obtain ⟨hslices, haddresses, -, hfits⟩ := slices_eq_of_path (path_run start steps) hspare
  obtain ⟨-, -, hexact, -⟩ := slices_eq_of_path (path_run start exact) hspareExact
  have hdeletions : Tracker.deletions {} (exact.filterMap (MonitorStep.event? .endpointSlice))
      = [⟨some { name := "d", ns := "c", addressCount := 1 },
          { name := "d", ns := "c", addressCount := 1 }⟩] := by decide +kernel
  obtain ⟨hslicesExact, haddressesExact⟩ := hexact (by simp [hdeletions])
  refine ⟨hspare, ?_, ?_, ?_, ?_, ?_⟩
  · rw [hslicesExact]
    decide +kernel
  · rw [haddressesExact]
    decide +kernel
  · rw [hslices]
    decide +kernel
  · rw [haddresses]
    decide +kernel
  · rw [hfits _ _ (by decide) (by decide)]
    decide

end Monitor

end PodDirectory
