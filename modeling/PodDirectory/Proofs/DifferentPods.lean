import PodDirectory.Proofs.PodCalls

/-!
# What is told of different pods can come in either order

A call about a pod changes what stands under the name of the pod. Among the addresses it gives the
pod the one of its record, and takes from it those that it leaves: the one of the record that stood
under its name before, and at a deletion also the one that was delivered. All other addresses are
whose they were (`Directory.findByAddress?_call`).

So two calls about pods of different names do not get in each other's way, unless both give their
pods the same address. Then all is the same in either order, but for who has this address: the pod
of the later call (`Directory.applyAll_swap`). Nothing is needed of the directory for this, and
nothing of the names but that they differ.
-/

namespace PodDirectory

open Std (ExtTreeMap)

/-! ## What a call does to one address -/

namespace PodCall

/-- **Whether the pod of a call leaves an address** that it may have, where this record was found
under its name before. -/
def Leaves (found : Option PodRecord) (a : String) : PodCall → Prop
  | upsert r => a ≠ r.address ∧ found.any (·.address = a) = true
  | delete r => a = r.address ∨ found.any (·.address = a) = true

instance (found : Option PodRecord) (a : String) : (c : PodCall) → Decidable (c.Leaves found a)
  | upsert r => inferInstanceAs (Decidable (a ≠ r.address ∧ found.any (·.address = a) = true))
  | delete r => inferInstanceAs (Decidable (a = r.address ∨ found.any (·.address = a) = true))

/-- How a call changes the number of pods, where this record was found under its name before. -/
def counted (found : Option PodRecord) : PodCall → Int64
  | upsert _ => if found.isSome then 0 else 1
  | delete _ => if found.isSome then -1 else 0

/-- A call gives one address at most. -/
theorem Gives.unique {c : PodCall} {a x : String} (h : c.Gives a) (h' : c.Gives x) : a = x := by
  cases c with
  | upsert r => exact Eq.trans (Eq.symm h) h'
  | delete r => exact h.elim

end PodCall

namespace Directory

/-- The addresses that a pod has left before it is given one. -/
theorem getElem?_vacated (d : Directory) (r : PodRecord) (a : String) :
    (d.vacated r)[a]? = (d.findByAddress? a).filter fun holder =>
      ¬ (holder.key = r.key ∧ a ≠ "" ∧
        (PodCall.upsert r).Leaves (d.findByName? r.key.text) a) := by
  unfold vacated findByName? PodCall.Leaves
  cases hp : d.byName[r.key.text]? with
  | none =>
    show d.findByAddress? a = _
    cases d.findByAddress? a <;> simp [Option.filter_some]
  | some previous =>
    dsimp only
    split
    · next hsame =>
      have hstays : ¬ (a ≠ r.address ∧ previous.address = a) := by
        rintro ⟨hne, rfl⟩
        exact hne hsame
      show d.findByAddress? a = _
      cases d.findByAddress? a <;> simp [Option.filter_some, hstays]
    · next hother =>
      have hleaves : a ≠ r.address ∧ previous.address = a ↔ a = previous.address := by
        constructor
        · exact fun h => h.2.symm
        · rintro rfl
          exact ⟨hother, rfl⟩
      simp only [Option.any_some, decide_eq_true_eq, hleaves]
      exact d.byAddress.getElem?_release_eq_filter_holder r.key previous.address a

/-- The addresses after a pod is gone. -/
theorem getElem?_abandoned (d : Directory) (r : PodRecord) (a : String) :
    (d.abandoned r)[a]? = (d.findByAddress? a).filter fun holder =>
      ¬ (holder.key = r.key ∧ a ≠ "" ∧
        (PodCall.delete r).Leaves (d.findByName? r.key.text) a) := by
  have hdelivered : (d.byAddress.release r.key r.address)[a]? = (d.findByAddress? a).filter _ :=
    d.byAddress.getElem?_release_eq_filter_holder r.key r.address a
  unfold abandoned findByName? PodCall.Leaves
  cases hs : d.byName[r.key.text]? with
  | none => simpa using hdelivered
  | some stored =>
    dsimp only
    rw [AddressTable.getElem?_release_eq_filter_holder, hdelivered, Option.filter_filter]
    refine congrArg (Option.filter · _) (funext fun holder => ?_)
    simp only [Option.any_some, decide_eq_true_eq, eq_comm (a := stored.address)]
    grind

/-- **The addresses after a call**: its pod has the one it is given, and none that it leaves; all
other pods have what they had. -/
theorem findByAddress?_call (d : Directory) (c : PodCall) (a : String) :
    (d.call c).findByAddress? a =
      if a ≠ "" ∧ c.Gives a then some c.record
      else (d.findByAddress? a).filter fun holder =>
        ¬ (holder.key = c.record.key ∧ a ≠ "" ∧ c.Leaves (d.findByName? c.record.key.text) a) := by
  cases c with
  | upsert r =>
    show ((d.vacated r).assign r)[a]? = _
    rw [AddressTable.getElem?_assign, getElem?_vacated]
    have hgives : r.address ≠ "" ∧ a = r.address ↔ a ≠ "" ∧ (PodCall.upsert r).Gives a := by
      constructor
      · rintro ⟨hne, rfl⟩
        exact ⟨hne, rfl⟩
      · rintro ⟨hne, rfl⟩
        exact ⟨hne, rfl⟩
    simp only [hgives]
    rfl
  | delete r =>
    show (d.abandoned r)[a]? = _
    rw [getElem?_abandoned, if_neg fun h => h.2]
    rfl

/-- The number of pods after a call. -/
theorem pods_call (d : Directory) (c : PodCall) :
    (d.call c).pods = d.pods + c.counted (d.findByName? c.record.key.text) := by
  have hmem : ∀ name, (d.findByName? name).isSome = true ↔ name ∈ d.byName := fun name =>
    ExtTreeMap.isSome_getElem?_iff_mem
  cases c with
  | upsert r =>
    show (if r.key.text ∈ d.byName then d.pods else d.pods + 1) = d.pods + if _ then 0 else 1
    simp only [hmem]
    split <;> simp [*, PodCall.record]
  | delete r =>
    show (if r.key.text ∈ d.byName then d.pods - 1 else d.pods) = d.pods + if _ then -1 else 0
    simp only [hmem]
    split <;> simp [*, PodCall.record, Int64.sub_eq_add_neg]

/-! ## Two calls about different pods -/

section Two

variable (d : Directory) {c₁ c₂ : PodCall} (hne : c₁.record.key.text ≠ c₂.record.key.text)
include hne

/-- A call does not change what stands under another name. -/
theorem findByName?_call_of_ne :
    (d.call c₂).findByName? c₁.record.key.text = d.findByName? c₁.record.key.text := by
  rw [findByName?_call, if_neg hne]

/-- A pod keeps the address that it was given, whatever is told of another pod that is not given
the same. -/
theorem findByAddress?_call_call_of_gives {a : String} (ha : a ≠ "") (hgives : c₂.Gives a)
    (hnot : ¬ c₁.Gives a) : ((d.call c₂).call c₁).findByAddress? a = some c₂.record := by
  have hkey : c₂.record.key ≠ c₁.record.key := fun h => hne (congrArg PodKey.text h.symm)
  rw [findByAddress?_call, if_neg fun h => hnot h.2, findByAddress?_call, if_pos ⟨ha, hgives⟩,
    Option.filter_some, if_pos (by simp [hkey])]

/-- **An address that is not contested** is the same pod's in either order. -/
theorem findByAddress?_call_comm {a : String} (h : ¬ (a ≠ "" ∧ c₁.Gives a ∧ c₂.Gives a)) :
    ((d.call c₁).call c₂).findByAddress? a = ((d.call c₂).call c₁).findByAddress? a := by
  by_cases h₁ : a ≠ "" ∧ c₁.Gives a
  · have h₂ : ¬ c₂.Gives a := fun h₂ => h ⟨h₁.1, h₁.2, h₂⟩
    rw [d.findByAddress?_call_call_of_gives hne.symm h₁.1 h₁.2 h₂, findByAddress?_call, if_pos h₁]
  by_cases h₂ : a ≠ "" ∧ c₂.Gives a
  · have h₁ : ¬ c₁.Gives a := fun h₁ => h ⟨h₂.1, h₁, h₂.2⟩
    rw [d.findByAddress?_call_call_of_gives hne h₂.1 h₂.2 h₁, findByAddress?_call, if_pos h₂]
  · -- what a pod leaves is told by its own name, which the other call does not touch
    rw [findByAddress?_call, if_neg h₂, findByAddress?_call, if_neg h₁, findByAddress?_call,
      if_neg h₁, findByAddress?_call, if_neg h₂, d.findByName?_call_of_ne hne,
      d.findByName?_call_of_ne hne.symm, Option.filter_filter, Option.filter_filter]
    simp only [Bool.and_comm]

/-- What stands under the names is the same in either order. -/
theorem byName_call_comm : ((d.call c₁).call c₂).byName = ((d.call c₂).call c₁).byName := by
  refine ExtTreeMap.ext_getElem? fun name => ?_
  show ((d.call c₁).call c₂).findByName? name = ((d.call c₂).call c₁).findByName? name
  simp only [findByName?_call]
  grind

/-- The number of pods is the same in either order. -/
theorem pods_call_comm : ((d.call c₁).call c₂).pods = ((d.call c₂).call c₁).pods := by
  rw [pods_call, pods_call, pods_call, pods_call, d.findByName?_call_of_ne hne,
    d.findByName?_call_of_ne hne.symm, Int64.add_assoc, Int64.add_assoc,
    Int64.add_comm (c₁.counted _)]

end Two

/-- **Two directories differ at most in who has one address.** -/
structure SameApartFrom (a : String) (d d' : Directory) : Prop where
  eq_up_to_addresses : d' = { d with byAddress := d'.byAddress }
  findByAddress?_eq : ∀ x ≠ a, d'.findByAddress? x = d.findByAddress? x

/-- Directories that have the same at every address are the same. -/
theorem SameApartFrom.eq {a : String} {d d' : Directory} (h : d.SameApartFrom a d')
    (ha : d'.findByAddress? a = d.findByAddress? a) : d' = d := by
  have haddress : d'.byAddress = d.byAddress := by
    refine ExtTreeMap.ext_getElem? fun x => ?_
    by_cases hx : x = a
    · rw [hx]
      exact ha
    · exact h.findByAddress?_eq x hx
  rw [h.eq_up_to_addresses, haddress]

/-- If somebody has the address in both, they are of the same size as well. -/
theorem SameApartFrom.stats_eq {a : String} {d d' : Directory} (h : d.SameApartFrom a d')
    {r r' : PodRecord} (ha : d.findByAddress? a = some r) (ha' : d'.findByAddress? a = some r') :
    d'.stats = d.stats := by
  have haddress : d'.byAddress = d.byAddress.insert a r' := by
    refine ExtTreeMap.ext_getElem? fun x => ?_
    rw [ExtTreeMap.getElem?_insert]
    simp only [Std.LawfulEqCmp.compare_eq_iff_eq]
    split
    · next hx => exact hx ▸ ha'
    · next hx => exact h.findByAddress?_eq x (Ne.symm hx)
  have hmem : d.byAddress.contains a = true := by
    rw [ExtTreeMap.contains_eq_isSome_getElem?]
    exact Option.isSome_of_eq_some ha
  have hsize : d'.byAddress.size = d.byAddress.size := by
    rw [haddress, ExtTreeMap.size_insert, if_pos hmem]
  rw [h.eq_up_to_addresses]
  simp only [stats, hsize]

/-- **Two calls about different pods** come to the same in either order, apart from any one address
that both pods are given. -/
theorem sameApartFrom_call_comm (d : Directory) {c₁ c₂ : PodCall}
    (hne : c₁.record.key.text ≠ c₂.record.key.text) {a : String}
    (h : ∀ x ≠ a, ¬ (x ≠ "" ∧ c₁.Gives x ∧ c₂.Gives x)) :
    ((d.call c₁).call c₂).SameApartFrom a ((d.call c₂).call c₁) where
  eq_up_to_addresses := by
    have hname := (d.byName_call_comm hne).symm
    have hpods := (d.pods_call_comm hne).symm
    cases c₁ <;> cases c₂ <;> exact Directory.ext rfl rfl hname rfl hpods rfl rfl rfl
  findByAddress?_eq x hx := (d.findByAddress?_call_comm hne (h x hx)).symm

/-- A notice about a pod does what the call in it asks for. -/
theorem apply_of_podCall? (d : Directory) {n : Notice} {c : PodCall} (h : n.podCall? = some c) :
    (d.apply n).1 = d.call c := by
  cases n with
  | added what initial =>
    cases what with
    | pod r =>
      cases h
      rfl
    | node | slice => cases h
  | updated old new =>
    cases old <;> cases new <;> cases h
    rfl
  | deleted what =>
    cases what with
    | pod r =>
      cases h
      rfl
    | node | slice => cases h

/-- **What is told of different pods can come in either order.** Only an address that both pods are
given shows which of them was told of last. -/
theorem applyAll_swap (d : Directory) {n₁ n₂ : Notice} {c₁ c₂ : PodCall}
    (h₁ : n₁.podCall? = some c₁) (h₂ : n₂.podCall? = some c₂)
    (hne : c₁.record.key.text ≠ c₂.record.key.text) :
    let first := (d.applyAll [n₁, n₂]).1
    let second := (d.applyAll [n₂, n₁]).1
    ((¬ ∃ a ≠ "", c₁.Gives a ∧ c₂.Gives a) → second = first) ∧
      ∀ a ≠ "", c₁.Gives a → c₂.Gives a →
        first.SameApartFrom a second ∧ second.stats = first.stats ∧
        first.findByAddress? a = some c₂.record ∧ second.findByAddress? a = some c₁.record := by
  have hfirst : (d.applyAll [n₁, n₂]).1 = (d.call c₁).call c₂ := by
    show ((d.apply n₁).1.apply n₂).1 = _
    rw [d.apply_of_podCall? h₁, apply_of_podCall? _ h₂]
  have hsecond : (d.applyAll [n₂, n₁]).1 = (d.call c₂).call c₁ := by
    show ((d.apply n₂).1.apply n₁).1 = _
    rw [d.apply_of_podCall? h₂, apply_of_podCall? _ h₁]
  rw [hfirst, hsecond]
  refine ⟨fun hfree => ?_, fun a ha hg₁ hg₂ => ?_⟩
  · have hnot : ∀ x, ¬ (x ≠ "" ∧ c₁.Gives x ∧ c₂.Gives x) := fun x hx => hfree ⟨x, hx⟩
    exact (d.sameApartFrom_call_comm hne (a := "") fun x _ => hnot x).eq
      (d.findByAddress?_call_comm hne (hnot "")).symm
  · have hsame : ((d.call c₁).call c₂).SameApartFrom a ((d.call c₂).call c₁) :=
      d.sameApartFrom_call_comm hne fun x hx hboth => hx (hboth.2.1.unique hg₁)
    have hlater : ((d.call c₁).call c₂).findByAddress? a = some c₂.record := by
      rw [findByAddress?_call, if_pos ⟨ha, hg₂⟩]
    have hlater' : ((d.call c₂).call c₁).findByAddress? a = some c₁.record := by
      rw [findByAddress?_call, if_pos ⟨ha, hg₁⟩]
    exact ⟨hsame, hsame.stats_eq hlater hlater', hlater, hlater'⟩

/-- Two pods exchange their addresses, and then both move to the same one. -/
theorem applyAll_swap_of_exchange :
    let pod (name address : String) : PodRecord := { key := ⟨name, "c"⟩, address }
    let move (name before after : String) : Notice :=
      .updated (.pod (pod name before)) (.pod (pod name after))
    let d := ((new defaultRequired false).applyAll
      [.added (.pod (pod "a" "10.0.0.1")) true, .added (.pod (pod "b" "10.0.0.2")) true]).1
    let exchange := [move "a" "10.0.0.1" "10.0.0.2", move "b" "10.0.0.2" "10.0.0.1"]
    let contest := [move "a" "10.0.0.1" "10.0.0.3", move "b" "10.0.0.2" "10.0.0.3"]
    (d.applyAll exchange.reverse).1 = (d.applyAll exchange).1 ∧
      (d.applyAll contest).1.SameApartFrom "10.0.0.3" (d.applyAll contest.reverse).1 ∧
      (d.applyAll contest).1.findByAddress? "10.0.0.3" = some (pod "b" "10.0.0.3") ∧
      (d.applyAll contest.reverse).1.findByAddress? "10.0.0.3" = some (pod "a" "10.0.0.3") := by
  intro pod move d exchange contest
  have hne : (pod "a" "").key.text ≠ (pod "b" "").key.text := by decide
  have hfree : ¬ ∃ a ≠ "", (PodCall.upsert (pod "a" "10.0.0.2")).Gives a ∧
      (PodCall.upsert (pod "b" "10.0.0.1")).Gives a := by
    rintro ⟨a, -, ha, hb⟩
    exact absurd (Eq.trans ha (Eq.symm hb)) (by decide)
  have hmove : ∀ name before after,
      (move name before after).podCall? = some (.upsert (pod name after)) := fun _ _ _ => rfl
  have hexchange := (d.applyAll_swap (hmove "a" "10.0.0.1" "10.0.0.2")
    (hmove "b" "10.0.0.2" "10.0.0.1") hne).1 hfree
  obtain ⟨hsame, -, hlater, hlater'⟩ := (d.applyAll_swap (hmove "a" "10.0.0.1" "10.0.0.3")
    (hmove "b" "10.0.0.2" "10.0.0.3") hne).2 "10.0.0.3" (by decide) rfl rfl
  exact ⟨hexchange, hsame, hlater, hlater'⟩

end Directory

end PodDirectory
