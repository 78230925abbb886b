import Mathlib.Algebra.Group.Nat.Defs
import Mathlib.Data.List.Perm.Subperm
import PodDirectory.Proofs.PodCalls

/-!
# A pod has one address at most, and it is the one under its name

Whatever a directory has been told, its tables say nothing untrue about what stands in them:
records stand under their own names and addresses, and as many pods are counted as there are
names. Where no namespace has a dot, the table of addresses is a part of the table of names, read
by address. Whoever has an address is found under its name with the same record, so that nobody
has two addresses, and there are no more addresses than names (`Directory.tables_of_applyAll`).

The converse is not true. A pod can have a record with an address under its name, while the
address is another pod's, or nobody's.
-/

namespace PodDirectory

open Std (ExtTreeMap)

namespace Directory

variable {d : Directory}

/-! ## Notices keep the tables in order -/

/-- After any notices each table is in order. -/
theorem indexed_applyAll (required : KindSet) (logsNodeUpdates : Bool) (notices : List Notice) :
    ((new required logsNodeUpdates).applyAll notices).1.Indexed := by
  refine Indexed.of_podsOnly ?_
  rw [podsOnly_applyAll]
  exact (consistent_new .empty false).toIndexed.callAll _

/-- After notices in which no namespace has a dot the tables are consistent. -/
theorem consistent_applyAll (required : KindSet) (logsNodeUpdates : Bool) {notices : List Notice}
    (hdot : ∀ c ∈ notices.filterMap Notice.podCall?, IsDotless c.record.key.ns) :
    ((new required logsNodeUpdates).applyAll notices).1.Consistent := by
  refine Consistent.of_podsOnly ?_
  rw [podsOnly_applyAll]
  exact (consistent_new .empty false).callAll hdot

/-! ## Counting -/

/-- As long as the names fit into the counter, it shows how many there are. -/
theorem Indexed.toInt_pods (hd : d.Indexed) (hsize : d.byName.size < 2 ^ 63) :
    d.pods.toInt = d.byName.size := by
  rw [hd.pods_eq, Int64.toInt_ofNat_of_lt hsize]

/-- **Nobody has two addresses.** -/
theorem Consistent.address_unique (hd : d.Consistent) {a b : String} {r s : PodRecord}
    (ha : d.findByAddress? a = some r) (hb : d.findByAddress? b = some s) (hk : r.key = s.key) :
    a = b := by
  have hname := hd.named ha
  rw [hk, hd.named hb] at hname
  obtain rfl := Option.some.inj hname
  exact (hd.address_eq ha).2.symm.trans (hd.address_eq hb).2

/-- **There are no more addresses than names.** -/
theorem Consistent.size_byAddress_le (hd : d.Consistent) :
    d.byAddress.size ≤ d.byName.size := by
  let names := d.byAddress.toList.map fun entry => entry.2.key.text
  have hfound : ∀ entry ∈ d.byAddress.toList, d.findByAddress? entry.1 = some entry.2 :=
    fun _ hentry => ExtTreeMap.mem_toList_iff_getElem?_eq_some.mp hentry
  have hnodup : names.Nodup := by
    refine List.pairwise_map.mpr (d.byAddress.distinct_keys_toList.imp_of_mem ?_)
    rintro ⟨a, r⟩ ⟨b, s⟩ hr hs hab htext
    -- the name of both is one name, so that they are one pod, and it has one address
    have hname := hd.named (hfound _ hr)
    rw [htext, hd.named (hfound _ hs)] at hname
    obtain rfl := Option.some.inj hname
    exact hab (Std.LawfulEqCmp.compare_eq_iff_eq.mpr
      (hd.address_unique (hfound _ hr) (hfound _ hs) rfl))
  have hnames : names ⊆ d.byName.keys := by
    intro name hname
    obtain ⟨entry, hentry, rfl⟩ := List.mem_map.mp hname
    rw [ExtTreeMap.mem_keys]
    exact (ExtTreeMap.getElem?_eq_some_iff.mp (hd.named (hfound entry hentry))).1
  calc d.byAddress.size = names.length := by rw [List.length_map, ExtTreeMap.length_toList]
    _ ≤ d.byName.keys.length := (hnodup.subperm hnames).length_le
    _ = d.byName.size := ExtTreeMap.length_keys

/-! ## After any notices -/

/-- **What the tables of a directory say**, after any notices. Records stand under their own names
and addresses, the empty address is nobody's, and the counter shows how many names there are.
Where no namespace has a dot, whoever has an address is found under its name with the same record,
nobody has two addresses, and there are no more addresses than names. -/
theorem tables_of_applyAll (required : KindSet) (logsNodeUpdates : Bool)
    (notices : List Notice) :
    let d := ((new required logsNodeUpdates).applyAll notices).1
    (∀ name r, d.findByName? name = some r → r.key.text = name) ∧
    (∀ a r, d.findByAddress? a = some r → r.address = a ∧ a ≠ "") ∧
    d.findByAddress? "" = none ∧
    d.stats.pods = Int64.ofNat d.stats.indexedNames ∧
    (d.stats.indexedNames < 2 ^ 63 → d.stats.pods.toInt = d.stats.indexedNames) ∧
    ((∀ c ∈ notices.filterMap Notice.podCall?, IsDotless c.record.key.ns) →
      (∀ a r, d.findByAddress? a = some r → d.findByKey? r.key = some r ∧ r.address = a) ∧
      (∀ a b r s, d.findByAddress? a = some r → d.findByAddress? b = some s → r.key = s.key →
        a = b) ∧
      d.stats.indexedAddresses ≤ d.stats.indexedNames) := by
  intro d
  have hd : d.Indexed := indexed_applyAll required logsNodeUpdates notices
  refine ⟨fun name r => hd.text_eq, fun a r ha => (hd.address_eq ha).symm,
    hd.findByAddress?_empty, hd.pods_eq, hd.toInt_pods, fun hdot => ?_⟩
  have hd' : d.Consistent := consistent_applyAll required logsNodeUpdates hdot
  exact ⟨fun a r ha => ⟨hd'.named ha, (hd'.address_eq ha).2⟩, fun a b r s => hd'.address_unique,
    hd'.size_byAddress_le⟩

/-- Two pods meet at one address and part again, one of them is deleted with an older record, and
the pod that is left is found under one address and not under the other. -/
theorem tables_of_applyAll_after_moves :
    let pod (name address : String) : PodRecord := { key := ⟨name, "c"⟩, address }
    let notices : List Notice := [.added (.pod (pod "a.b" "10.0.0.1")) true,
      .added (.pod (pod "d" "")) false, .updated (.node { name := "d" }) (.pod (pod "e" "10.0.0.9")),
      .updated (.pod (pod "d" "")) (.pod (pod "d" "10.0.0.1")),
      .updated (.pod (pod "a.b" "10.0.0.1")) (.pod (pod "a.b" "10.0.0.2")),
      .deleted (.pod (pod "d" "")), .deleted (.pod (pod "d" "10.0.0.1"))]
    let d := ((new defaultRequired false).applyAll notices).1
    (∀ c ∈ notices.filterMap Notice.podCall?, IsDotless c.record.key.ns) ∧
      d.stats.indexedNames = 1 ∧ d.stats.pods.toInt = 1 ∧ d.stats.indexedAddresses ≤ 1 ∧
      d.findByAddress? "10.0.0.2" = some (pod "a.b" "10.0.0.2") ∧
      d.findByKey? ⟨"a.b", "c"⟩ = some (pod "a.b" "10.0.0.2") ∧
      ∀ r, d.findByAddress? "10.0.0.1" = some r → r.key ≠ ⟨"a.b", "c"⟩ := by
  intro pod notices d
  have hdot : ∀ c ∈ notices.filterMap Notice.podCall?, IsDotless c.record.key.ns := by decide
  have hsize : d.stats.indexedNames = 1 := by decide +kernel
  have hfound : d.findByAddress? "10.0.0.2" = some (pod "a.b" "10.0.0.2") := by decide +kernel
  obtain ⟨-, -, -, -, hpods, hconsistent⟩ := tables_of_applyAll defaultRequired false notices
  obtain ⟨hnamed, hunique, hle⟩ := hconsistent hdot
  refine ⟨hdot, hsize, (hpods (by rw [hsize]; decide)).trans (by rw [hsize]; rfl), hsize ▸ hle,
    hfound, (hnamed _ _ hfound).1, fun r hr hk => ?_⟩
  exact absurd (hunique _ _ _ _ hr hfound hk) (by decide)

end Directory

end PodDirectory
