import PodDirectory.Directory
import PodDirectory.Proofs.PodNames

/-!
# How the two tables of pods hang together

A directory has its pods in two tables, and both are changed step by step whenever a pod is
upserted or removed. `Directory.Indexed` says what is true of either table by itself and of
the counter, whatever the pods are called. `Directory.Consistent` adds what ties the tables
together, which needs namespaces without dots: whoever has an address is found under its
name, with that address.

What makes this an invariant is that a pod that is upserted again leaves the address that
its last record has, and that nobody else has two. So in a consistent directory an upsert
and a removal have a simple effect on the addresses: the pod loses the one it had, and is
given the one of its record (`findByAddress?_upsert`, `findByAddress?_remove`).
-/

namespace PodDirectory

open Std (ExtTreeMap)

/-! ## What a release takes away -/

namespace AddressTable

variable (t : AddressTable) (key : PodKey)

/-- A release gives nobody an address. -/
theorem of_getElem?_release {address a : String} {holder : PodRecord}
    (h : (t.release key address)[a]? = some holder) : t[a]? = some holder := by
  rw [getElem?_release] at h
  split at h
  · exact absurd h (by simp)
  · exact h

/-- **A release takes an address from the pod that releases it**, if it has it, and the empty
address from nobody. -/
theorem getElem?_release_eq_filter_holder (address a : String) :
    (t.release key address)[a]?
      = (t[a]?).filter fun holder => ¬ (holder.key = key ∧ a ≠ "" ∧ a = address) := by
  rw [getElem?_release]
  cases ht : t[a]? with
  | none => simp
  | some holder =>
    by_cases ha : a = address
    · subst ha
      by_cases hk : holder.key = key <;> simp [isHeldBy, ht, hk, Option.filter_some]
    · simp [ha, Option.filter_some]

/-- A release takes an address from nobody but the pod that releases it. -/
theorem filter_getElem?_release (address a : String) :
    ((t.release key address)[a]?).filter (·.key ≠ key) = (t[a]?).filter (·.key ≠ key) := by
  rw [getElem?_release_eq_filter_holder, Option.filter_filter]
  refine congrArg (Option.filter · _) (funext fun holder => ?_)
  by_cases hk : holder.key = key <;> simp [hk]

/-- A pod that can have an address only under one name has it no more when it has released
that one. -/
theorem getElem?_release_eq_filter {address a : String}
    (h : ∀ holder, t[a]? = some holder → holder.key = key → a = address ∧ address ≠ "") :
    (t.release key address)[a]? = (t[a]?).filter (·.key ≠ key) := by
  rw [getElem?_release_eq_filter_holder]
  cases ht : t[a]? with
  | none => rfl
  | some holder =>
    by_cases hk : holder.key = key
    · obtain ⟨rfl, hne⟩ := h holder ht hk
      simp [hk, hne, Option.filter_some]
    · simp [hk, Option.filter_some]

end AddressTable

namespace Directory

/-! ## The invariants -/

/-- **Each table by itself**: records stand under their own names and addresses, and the
counter counts the names. -/
structure Indexed (d : Directory) : Prop where
  /-- A record stands under its own name. -/
  text_eq : ∀ {name r}, d.findByName? name = some r → r.key.text = name
  /-- A record stands under its own address, and never under the empty one. -/
  address_eq : ∀ {a r}, d.findByAddress? a = some r → a ≠ "" ∧ r.address = a
  /-- The counter goes round at 64 bits, and counts the names up to that. -/
  pods_eq : d.pods = Int64.ofNat d.byName.size

/-- **Both tables together**, where no namespace has a dot. -/
structure Consistent (d : Directory) : Prop extends Indexed d where
  dotless : ∀ {name r}, d.findByName? name = some r → IsDotless r.key.ns
  /-- Who has an address is found under its name, with the same record. -/
  named : ∀ {a r}, d.findByAddress? a = some r → d.findByName? r.key.text = some r

/-- A new directory is consistent. -/
theorem consistent_new (required : KindSet) (logsNodeUpdates : Bool) :
    (new required logsNodeUpdates).Consistent where
  text_eq h := by simp [findByName?, new] at h
  address_eq h := by simp [findByAddress?, new] at h
  pods_eq := rfl
  dotless h := by simp [findByName?, new] at h
  named h := by simp [findByAddress?, new] at h

/-- Nobody has the empty address. -/
theorem Indexed.findByAddress?_empty {d : Directory} (hd : d.Indexed) :
    d.findByAddress? "" = none :=
  Option.eq_none_iff_forall_ne_some.mpr fun _ h => (hd.address_eq h).1 rfl

/-! ## The addresses after an upsert and a removal -/

namespace Consistent

variable {d : Directory} (hd : d.Consistent)
include hd

/-- **One pod has one address**, the one of the record under its name. -/
theorem address_of_holder {r holder : PodRecord} {a : String}
    (hr : d.findByName? r.key.text = some r) (ha : d.findByAddress? a = some holder)
    (hk : holder.key = r.key) : a = r.address ∧ r.address ≠ "" := by
  have heq : holder = r := Option.some.inj ((hd.named ha).symm.trans (hk ▸ hr))
  obtain ⟨hne, haddr⟩ := hd.address_eq ha
  subst heq
  exact ⟨haddr.symm, haddr ▸ hne⟩

/-- A pod that is not found under its name has no address. -/
theorem key_ne_of_unnamed {key : PodKey} {holder : PodRecord} {a : String}
    (h : d.findByName? key.text = none) (ha : d.findByAddress? a = some holder) :
    holder.key ≠ key := by
  rintro rfl
  exact absurd (hd.named ha) (by simp [h])

/-- A pod that has an address and is not the pod of a record has another name. -/
theorem named_of_filter {r holder : PodRecord} {a : String} (hr : IsDotless r.key.ns)
    (h : (d.findByAddress? a).filter (·.key ≠ r.key) = some holder) :
    d.findByName? holder.key.text = some holder ∧ holder.key.text ≠ r.key.text := by
  obtain ⟨ha, hne⟩ := Option.filter_eq_some_iff.mp h
  have hname := hd.named ha
  refine ⟨hname, fun ht => of_decide_eq_true hne ?_⟩
  exact (PodKey.text_inj (hd.dotless hname) hr).mp ht

/-- What is found under the text of a key is a record of that key, if the namespace of the
key has no dot. -/
theorem key_eq {key : PodKey} {r : PodRecord} (hkey : IsDotless key.ns)
    (h : d.findByName? key.text = some r) : r.key = key :=
  (PodKey.text_inj (hd.dotless h) hkey).mp (hd.text_eq h)

/-- A pod that is upserted loses the address it had, unless it is given it again. -/
theorem findByAddress?_vacated {r : PodRecord} (hr : IsDotless r.key.ns) {a : String}
    (ha : ¬ (a ≠ "" ∧ r.address = a)) :
    (d.vacated r)[a]? = (d.findByAddress? a).filter (·.key ≠ r.key) := by
  have hkeep : (∀ holder, d.findByAddress? a = some holder → holder.key ≠ r.key) →
      d.byAddress[a]? = (d.findByAddress? a).filter (·.key ≠ r.key) := by
    intro hne
    cases hh : d.findByAddress? a with
    | none => exact hh
    | some holder =>
      rw [Option.filter_some, if_pos (by simpa using hne holder hh)]
      exact hh
  unfold vacated
  cases hp : d.byName[r.key.text]? with
  | none => exact hkeep fun holder hh => hd.key_ne_of_unnamed hp hh
  | some previous =>
    -- the record under the name is the pod's own, so it says the only address to release
    have hkey : previous.key = r.key := hd.key_eq hr hp
    have hold : ∀ holder, d.findByAddress? a = some holder → holder.key = r.key →
        a = previous.address ∧ previous.address ≠ "" := fun holder hh hk =>
      hd.address_of_holder (by rw [hkey]; exact hp) hh (hk.trans hkey.symm)
    dsimp only
    split
    · next hsame =>
      refine hkeep fun holder hh hk => ha ?_
      obtain ⟨rfl, hne⟩ := hold holder hh hk
      exact ⟨hne, hsame.symm⟩
    · exact AddressTable.getElem?_release_eq_filter d.byAddress r.key hold

/-- **The addresses after an upsert**: the pod has the one of its record, if there is one,
and no other. -/
theorem findByAddress?_upsert {r : PodRecord} (hr : IsDotless r.key.ns) (a : String) :
    (d.upsert r).findByAddress? a =
      if a ≠ "" ∧ r.address = a then some r
      else (d.findByAddress? a).filter (·.key ≠ r.key) := by
  show ((d.vacated r).assign r)[a]? = _
  rw [AddressTable.getElem?_assign]
  split
  · next h =>
    obtain ⟨hne, rfl⟩ := h
    rw [if_pos ⟨hne, rfl⟩]
  · next h =>
    have ha : ¬ (a ≠ "" ∧ r.address = a) := fun ⟨hne, he⟩ => h ⟨he ▸ hne, he.symm⟩
    rw [if_neg ha, hd.findByAddress?_vacated hr ha]

/-- **The addresses after a removal**: the pod has none, whatever record was delivered. -/
theorem findByAddress?_remove {r : PodRecord} (hr : IsDotless r.key.ns) (a : String) :
    (d.remove r).findByAddress? a = (d.findByAddress? a).filter (·.key ≠ r.key) := by
  show (d.abandoned r)[a]? = _
  unfold abandoned
  cases hs : d.byName[r.key.text]? with
  | none =>
    exact AddressTable.getElem?_release_eq_filter d.byAddress r.key fun holder hh hk =>
      absurd hk (hd.key_ne_of_unnamed hs hh)
  | some stored =>
    have hkey : stored.key = r.key := hd.key_eq hr hs
    -- the second release takes all that the pod has, so the first one does not matter
    dsimp only
    rw [AddressTable.getElem?_release_eq_filter, AddressTable.filter_getElem?_release]
    · rfl
    intro holder hh hk
    exact hd.address_of_holder (by rw [hkey]; exact hs)
      (AddressTable.of_getElem?_release _ _ hh) (hk.trans hkey.symm)

end Consistent

/-! ## Keeping the invariants -/

section Keeping

variable (d : Directory) (r : PodRecord)

/-- After an upsert only the record of it has an address that it did not have before. -/
theorem of_findByAddress?_upsert {a : String} {holder : PodRecord}
    (h : (d.upsert r).findByAddress? a = some holder) :
    (a ≠ "" ∧ r.address = a ∧ holder = r) ∨ d.findByAddress? a = some holder := by
  have hv : (d.vacated r)[a]? = some holder → d.findByAddress? a = some holder := by
    unfold vacated
    split
    · exact id
    · split
      · exact id
      · exact AddressTable.of_getElem?_release _ _
  have ha : ((d.vacated r).assign r)[a]? = some holder := h
  rw [AddressTable.getElem?_assign] at ha
  split at ha
  · next hc => exact Or.inl ⟨hc.2 ▸ hc.1, hc.2.symm, (Option.some.inj ha).symm⟩
  · exact Or.inr (hv ha)

/-- A removal gives nobody an address. -/
theorem of_findByAddress?_remove {a : String} {holder : PodRecord}
    (h : (d.remove r).findByAddress? a = some holder) : d.findByAddress? a = some holder := by
  have ha : (d.abandoned r)[a]? = some holder := h
  unfold abandoned at ha
  split at ha
  · exact AddressTable.of_getElem?_release _ _ ha
  · exact AddressTable.of_getElem?_release _ _ (AddressTable.of_getElem?_release _ _ ha)

theorem size_byName_upsert :
    (d.upsert r).byName.size
      = if r.key.text ∈ d.byName then d.byName.size else d.byName.size + 1 :=
  ExtTreeMap.size_insert

theorem size_byName_remove :
    (d.remove r).byName.size
      = if r.key.text ∈ d.byName then d.byName.size - 1 else d.byName.size :=
  ExtTreeMap.size_erase

variable {d}

theorem Indexed.upsert (hd : d.Indexed) : (d.upsert r).Indexed where
  text_eq {name r'} h := by
    rw [findByName?_upsert] at h
    split at h
    · next hn => exact (Option.some.inj h) ▸ hn.symm
    · exact hd.text_eq h
  address_eq h := by
    rcases d.of_findByAddress?_upsert r h with ⟨hne, ha, rfl⟩ | h
    · exact ⟨hne, ha⟩
    · exact hd.address_eq h
  pods_eq := by
    show (if r.key.text ∈ d.byName then d.pods else d.pods + 1) = _
    rw [size_byName_upsert, hd.pods_eq]
    split
    · rfl
    · exact (Int64.ofNat_add _ _).symm

theorem Indexed.remove (hd : d.Indexed) : (d.remove r).Indexed where
  text_eq {name r'} h := by
    rw [findByName?_remove] at h
    split at h
    · exact absurd h (by simp)
    · exact hd.text_eq h
  address_eq h := hd.address_eq (d.of_findByAddress?_remove r h)
  pods_eq := by
    show (if r.key.text ∈ d.byName then d.pods - 1 else d.pods) = _
    rw [size_byName_remove, hd.pods_eq]
    split
    · next hmem =>
      have hpos : 1 ≤ d.byName.size := Nat.one_le_iff_ne_zero.mpr fun h0 => by
        rw [ExtTreeMap.eq_empty_iff_size_eq_zero.mpr h0] at hmem
        exact ExtTreeMap.not_mem_empty hmem
      exact (Int64.ofNat_sub _ _ hpos).symm
    · rfl

variable {r}

theorem Consistent.upsert (hd : d.Consistent) (hr : IsDotless r.key.ns) :
    (d.upsert r).Consistent where
  toIndexed := hd.toIndexed.upsert r
  dotless {name r'} h := by
    rw [findByName?_upsert] at h
    split at h
    · exact (Option.some.inj h) ▸ hr
    · exact hd.dotless h
  named {a holder} h := by
    rw [findByName?_upsert]
    rw [hd.findByAddress?_upsert hr] at h
    split at h
    · obtain rfl := Option.some.inj h
      rw [if_pos rfl]
    · obtain ⟨hname, hne⟩ := hd.named_of_filter hr h
      rw [if_neg hne]
      exact hname

theorem Consistent.remove (hd : d.Consistent) (hr : IsDotless r.key.ns) :
    (d.remove r).Consistent where
  toIndexed := hd.toIndexed.remove r
  dotless {name r'} h := by
    rw [findByName?_remove] at h
    split at h
    · exact absurd h (by simp)
    · exact hd.dotless h
  named {a holder} h := by
    rw [findByName?_remove]
    rw [hd.findByAddress?_remove hr] at h
    obtain ⟨hname, hne⟩ := hd.named_of_filter hr h
    rw [if_neg hne]
    exact hname

end Keeping

end Directory

end PodDirectory
