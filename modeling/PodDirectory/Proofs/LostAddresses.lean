import PodDirectory.Proofs.LastWriter
import PodDirectory.Proofs.OneAddress

/-!
# Addresses that are lost

Pods can share an address, and the directory remembers only the one that was given it last. When
this pod moves on or is deleted, the address becomes nobody's, although other pods still have it
in their records. So a pod that is found under its name need not be found under its address, and
neither need any other (`Directory.findByAddress?_lost_after_takeover`).

When this happens can be told exactly (`Directory.address_held_or_lost`). What decides is the last
upsert with the address. Its pod has the address until it is called about again, and then the
address is lost. The pod that leaves is never one of those that are still found with the address.
-/

namespace PodDirectory

namespace Directory

variable {calls : List PodCall} {a : String} {r : PodRecord} {later : List PodCall}

/-- An address that a record under a name has was given to some pod last. -/
theorem exists_lastGiven {name : String}
    (h : ((new .empty false).callAll calls).findByName? name = some r) :
    ∃ s later, LastWhere (PodCall.Gives r.address) calls (.upsert s) later := by
  obtain ⟨_, ⟨earlier, hcalls⟩, -⟩ := (findByName?_callAll calls name r).mp h
  have hgiven : ∃ c ∈ calls, PodCall.Gives r.address c := ⟨.upsert r, by simp [hcalls], rfl⟩
  obtain ⟨c, later, hlast⟩ := exists_lastWhere hgiven
  cases c with
  | upsert s => exact ⟨s, later, hlast⟩
  | delete s => exact hlast.2.1.elim

/-- **A pod that was called about since it was given an address last has another one now**, if it
is found at all. -/
theorem address_ne_of_left {s found : PodRecord}
    (hlast : LastWhere (PodCall.Gives a) calls (.upsert s) later)
    (hleft : ∃ c ∈ later, c.record.key = s.key)
    (h : ((new .empty false).callAll calls).findByName? s.key.text = some found) :
    found.address ≠ a := by
  obtain ⟨_, hnamed⟩ := (findByName?_callAll calls s.key.text found).mp h
  have hbehind : ∃ c ∈ later, PodCall.IsNamed s.key.text c :=
    hleft.imp fun c hc => ⟨hc.1, congrArg PodKey.text hc.2⟩
  exact fun ha => hlast.2.2 _ (hnamed.mem_behind hlast hbehind) ha

/-- **An address is nobody's when the pod that was given it last is called about again.** -/
theorem findByAddress?_of_left {s : PodRecord} (hc : ∀ c ∈ calls, IsDotless c.record.key.ns)
    (hlast : LastWhere (PodCall.Gives a) calls (.upsert s) later)
    (hleft : ∃ c ∈ later, c.record.key = s.key) :
    ((new .empty false).callAll calls).findByAddress? a = none := by
  refine Option.eq_none_iff_forall_ne_some.mpr fun holder hholder => ?_
  obtain ⟨_, later', hlast', hfree⟩ := (findByAddress?_callAll hc a holder).mp hholder
  obtain ⟨hsame, rfl⟩ := hlast.unique hlast'
  cases hsame
  obtain ⟨c, hmem, hkey⟩ := hleft
  exact hfree c hmem hkey

/-- **Who has the address of a pod that is found under its name**, after any notices in which no
namespace has a dot. Some pod was given this address last. If it was not called about since, it
has the address, and is found under its name with the same record. If it was, it is not the pod
itself but another one, which took the address over and has moved on or is gone since, and the
address is nobody's. -/
theorem address_held_or_lost (required : KindSet) (logsNodeUpdates : Bool)
    (notices : List Notice)
    (hdot : ∀ c ∈ notices.filterMap Notice.podCall?, IsDotless c.record.key.ns)
    {name : String} {r : PodRecord}
    (hr : ((new required logsNodeUpdates).applyAll notices).1.findByName? name = some r)
    (hne : r.address ≠ "") :
    let d := ((new required logsNodeUpdates).applyAll notices).1
    ∃ s later, s.address = r.address ∧
      LastWhere (PodCall.Gives r.address) (notices.filterMap Notice.podCall?) (.upsert s) later ∧
      (((∀ c ∈ later, c.record.key ≠ s.key) ∧ d.findByAddress? r.address = some s ∧
          d.findByKey? s.key = some s) ∨
        ((∃ c ∈ later, c.record.key = s.key) ∧ d.findByAddress? r.address = none ∧
          s.key ≠ r.key ∧ ∀ found, d.findByKey? s.key = some found → found.address ≠ r.address)) := by
  intro d
  have hpods : d.podsOnly = (new .empty false).callAll (notices.filterMap Notice.podCall?) :=
    podsOnly_applyAll (new required logsNodeUpdates) notices
  have hd : d.Consistent := consistent_applyAll required logsNodeUpdates hdot
  have hname : ∀ name, d.findByName? name = ((new .empty false).callAll
      (notices.filterMap Notice.podCall?)).findByName? name := fun name => by
    rw [← findByName?_podsOnly, hpods]
  have haddress : ∀ a, d.findByAddress? a = ((new .empty false).callAll
      (notices.filterMap Notice.podCall?)).findByAddress? a := fun a => by
    rw [← findByAddress?_podsOnly, hpods]
  obtain ⟨s, later, hlast⟩ := exists_lastGiven ((hname name).symm.trans hr)
  refine ⟨s, later, hlast.2.1, hlast, ?_⟩
  by_cases hleft : ∃ c ∈ later, c.record.key = s.key
  · have hmoved : ∀ found, d.findByKey? s.key = some found → found.address ≠ r.address :=
      fun found hfound => address_ne_of_left hlast hleft ((hname _).symm.trans hfound)
    refine Or.inr ⟨hleft, (haddress _).trans (findByAddress?_of_left hdot hlast hleft), ?_, hmoved⟩
    -- the pod itself is found with the address, and the one that left is not
    intro hkey
    refine hmoved r ?_ rfl
    show d.findByName? s.key.text = some r
    rw [hkey, hd.text_eq hr, hr]
  · have hfree : ∀ c ∈ later, c.record.key ≠ s.key := fun c hmem hkey => hleft ⟨c, hmem, hkey⟩
    have hheld : d.findByAddress? r.address = some s :=
      (haddress _).trans ((findByAddress?_callAll hdot _ s).mpr ⟨hne, later, hlast, hfree⟩)
    exact Or.inl ⟨hfree, hheld, hd.named hheld⟩

/-- Two pods take an address over from another one each. One of them keeps it, and the other one
is deleted. -/
theorem address_held_or_lost_after_takeovers :
    let pod (name address : String) : PodRecord := { key := ⟨name, "c"⟩, address }
    let notices : List Notice := [.added (.pod (pod "a" "10.0.0.1")) true,
      .added (.pod (pod "b" "10.0.0.2")) true, .added (.pod (pod "d" "10.0.0.1")) false,
      .added (.pod (pod "e" "10.0.0.2")) false, .deleted (.pod (pod "d" "10.0.0.1"))]
    let d := ((new defaultRequired false).applyAll notices).1
    (∀ c ∈ notices.filterMap Notice.podCall?, IsDotless c.record.key.ns) ∧
      d.findByName? "a.c" = some (pod "a" "10.0.0.1") ∧
      d.findByName? "b.c" = some (pod "b" "10.0.0.2") ∧
      d.findByAddress? "10.0.0.1" = none ∧
      d.findByAddress? "10.0.0.2" = some (pod "e" "10.0.0.2") := by
  intro pod notices d
  have hcalls : notices.filterMap Notice.podCall?
      = [.upsert (pod "a" "10.0.0.1"), .upsert (pod "b" "10.0.0.2"),
          .upsert (pod "d" "10.0.0.1"), .upsert (pod "e" "10.0.0.2"),
          .delete (pod "d" "10.0.0.1")] := rfl
  have hdot : ∀ c ∈ notices.filterMap Notice.podCall?, IsDotless c.record.key.ns := by
    rw [hcalls]
    decide
  have ha : d.findByName? "a.c" = some (pod "a" "10.0.0.1") := by decide +kernel
  have hb : d.findByName? "b.c" = some (pod "b" "10.0.0.2") := by decide +kernel
  obtain ⟨s, _, -, hlast, hcase⟩ :=
    address_held_or_lost defaultRequired false notices hdot ha (by decide)
  obtain ⟨s', _, -, hlast', hcase'⟩ :=
    address_held_or_lost defaultRequired false notices hdot hb (by decide)
  rw [hcalls] at hlast hlast'
  -- the last pods that were given the addresses are the ones that took them over
  have hd : LastWhere (PodCall.Gives "10.0.0.1") _ (.upsert (pod "d" "10.0.0.1"))
      [.upsert (pod "e" "10.0.0.2"), .delete (pod "d" "10.0.0.1")] :=
    ⟨⟨[.upsert (pod "a" "10.0.0.1"), .upsert (pod "b" "10.0.0.2")], rfl⟩, by decide, by decide⟩
  have he : LastWhere (PodCall.Gives "10.0.0.2") _ (.upsert (pod "e" "10.0.0.2"))
      [.delete (pod "d" "10.0.0.1")] :=
    ⟨⟨[.upsert (pod "a" "10.0.0.1"), .upsert (pod "b" "10.0.0.2"),
      .upsert (pod "d" "10.0.0.1")], rfl⟩, by decide, by decide⟩
  obtain ⟨hs, rfl⟩ := hlast.unique hd
  obtain ⟨hs', rfl⟩ := hlast'.unique he
  cases hs
  cases hs'
  refine ⟨hdot, ha, hb, ?_, ?_⟩
  · rcases hcase with ⟨hfree, -⟩ | ⟨-, hlost, -⟩
    · exact absurd rfl (hfree (.delete (pod "d" "10.0.0.1")) (by decide))
    · exact hlost
  · rcases hcase' with ⟨-, hheld, -⟩ | ⟨hleft, -⟩
    · exact hheld
    · exact absurd hleft (by decide)

/-- **The address of a pod that is found under its name can be lost**: another pod takes it over
and is deleted, and then nobody is found under it. -/
theorem findByAddress?_lost_after_takeover :
    let pod (name : String) : Observation := .pod { key := ⟨name, "c"⟩, address := "10.0.0.1" }
    let notices : List Notice := [.added (pod "a") false, .added (pod "b") false,
      .deleted (pod "b")]
    let d := ((new defaultRequired false).applyAll notices).1
    (∀ c ∈ notices.filterMap Notice.podCall?, IsDotless c.record.key.ns) ∧
      ¬ ∀ name r, d.findByName? name = some r → r.address ≠ "" →
        ∃ s, d.findByAddress? r.address = some s ∧
          ∃ found, d.findByKey? s.key = some found ∧ found.address = r.address := by
  intro pod notices d
  refine ⟨by decide, fun h => ?_⟩
  have hfound : d.findByName? "a.c" = some { key := ⟨"a", "c"⟩, address := "10.0.0.1" } := by
    decide +kernel
  have hlost : d.findByAddress? "10.0.0.1" = none := by decide +kernel
  obtain ⟨s, hs, -⟩ := h _ _ hfound (by decide)
  rw [hlost] at hs
  cases hs

end Directory

end PodDirectory
