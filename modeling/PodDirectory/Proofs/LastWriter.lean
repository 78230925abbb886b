import Mathlib.Data.List.Induction
import PodDirectory.Proofs.Histories
import PodDirectory.Proofs.PodCalls

/-!
# The last writer wins

A directory keeps no history, only two tables that are changed in place. What stands in
them can be told from the history all the same, and this module says how.

* Under a name stands the record of the last call about that name, if this call is an
  upsert.
* Under an address stands the record of the last upsert that gives this address, as long as
  its pod is not called about again. It does not matter what the later call says: an upsert
  gives the pod another address or none, and a deletion takes it away, whatever record is
  delivered with it.

The first law needs nothing. The second needs namespaces without dots, since otherwise the
last record of one pod can stand under the name of another, and a pod that moves does not
find the address that it has to release.

Both are proved along the history from its start: `lastWhere_concat` says what one more call
changes in "the last call such that", and the laws of `upsert` and `remove` say the same of
the tables.
-/

namespace PodDirectory

/-! ## The laws for calls -/

namespace Directory

/-- **Under a name stands what the last call about it upserted.** -/
theorem findByName?_callAll (calls : List PodCall) (name : String) (r : PodRecord) :
    ((new .empty false).callAll calls).findByName? name = some r ↔
      ∃ later, LastWhere (PodCall.IsNamed name) calls (.upsert r) later := by
  induction calls using List.reverseRecOn with
  | nil =>
    have hempty : (new .empty false).findByName? name = none := by simp [findByName?, new]
    simp [hempty, not_lastWhere_nil]
  | append_singleton calls c ih =>
    rw [callAll_append, callAll_cons, callAll_nil, findByName?_call]
    by_cases hc : c.IsNamed name
    · simp only [lastWhere_concat_of_pos hc]
      rw [if_pos (Eq.symm hc), PodCall.stored?_eq_some]
      constructor
      · intro h
        exact ⟨[], h, rfl⟩
      · rintro ⟨_, h, _⟩
        exact h
    · simp only [lastWhere_concat_of_not hc]
      rw [if_neg fun h => hc h.symm, ih]
      constructor
      · rintro ⟨rest, h⟩
        exact ⟨rest ++ [c], rest, rfl, h⟩
      · rintro ⟨_, rest, _, h⟩
        exact ⟨rest, h⟩

/-- **Under an address stands the record that the last upsert with this address gave it to**,
unless a later call was about the same pod. -/
theorem findByAddress?_callAll {calls : List PodCall}
    (hc : ∀ c ∈ calls, IsDotless c.record.key.ns) (a : String) (r : PodRecord) :
    ((new .empty false).callAll calls).findByAddress? a = some r ↔
      a ≠ "" ∧ ∃ later, LastWhere (PodCall.Gives a) calls (.upsert r) later ∧
        ∀ c ∈ later, c.record.key ≠ r.key := by
  induction calls using List.reverseRecOn with
  | nil =>
    have hempty : (new .empty false).findByAddress? a = none := by simp [findByAddress?, new]
    simp [hempty, not_lastWhere_nil]
  | append_singleton calls c ih =>
    have hcalls : ∀ x ∈ calls, IsDotless x.record.key.ns := fun x hx => hc x (by simp [hx])
    have hlast : IsDotless c.record.key.ns := hc c (by simp)
    have hd := (consistent_new .empty false).callAll hcalls
    rw [callAll_append, callAll_cons, callAll_nil]
    -- nobody has the empty address, whatever the call is
    by_cases ha : a = ""
    · subst ha
      rw [hd.findByAddress?_call_of_not hlast (by simp), Option.filter_eq_some_iff]
      simp [ih hcalls]
    -- either the call gives the address away, or it can only take it from its own pod
    by_cases hg : c.Gives a
    · rw [hd.findByAddress?_call_of_gives hlast ha hg, PodCall.stored?_eq_some]
      simp only [lastWhere_concat_of_pos hg]
      constructor
      · intro h
        exact ⟨ha, [], ⟨h, rfl⟩, by simp⟩
      · rintro ⟨_, _, ⟨h, _⟩, _⟩
        exact h
    · rw [hd.findByAddress?_call_of_not hlast (fun h => hg h.2), Option.filter_eq_some_iff,
        ih hcalls]
      simp only [lastWhere_concat_of_not hg]
      constructor
      · rintro ⟨⟨_, rest, hrest, hfree⟩, hne⟩
        refine ⟨ha, rest ++ [c], ⟨rest, rfl, hrest⟩, fun x hx => ?_⟩
        rcases List.mem_append.mp hx with hx | hx
        · exact hfree x hx
        · obtain rfl : x = c := by simpa using hx
          exact Ne.symm (of_decide_eq_true hne)
      · rintro ⟨_, _, ⟨rest, rfl, hrest⟩, hfree⟩
        refine ⟨⟨ha, rest, hrest, fun x hx => hfree x (by simp [hx])⟩, ?_⟩
        exact decide_eq_true (Ne.symm (hfree c (by simp)))

/-- A pod that was deleted has no address until it is called about again. -/
theorem key_ne_of_deleted {earlier later : List PodCall} {s : PodRecord}
    (hc : ∀ c ∈ earlier ++ .delete s :: later, IsDotless c.record.key.ns)
    (hlater : ∀ c ∈ later, c.record.key ≠ s.key) {a : String} {r : PodRecord}
    (h : ((new .empty false).callAll (earlier ++ .delete s :: later)).findByAddress? a = some r) :
    r.key ≠ s.key := by
  intro hk
  obtain ⟨_, rest, ⟨hsplit, _, _⟩, hfree⟩ := (findByAddress?_callAll hc a r).mp h
  -- both calls would be the last one about the pod
  have hgiven : LastWhere (fun c => c.record.key = s.key) _ (.upsert r) rest :=
    ⟨hsplit, hk, fun c hmem => hk ▸ hfree c hmem⟩
  have hdeleted : LastWhere (fun c => c.record.key = s.key) _ (.delete s) later :=
    ⟨⟨earlier, rfl⟩, rfl, hlater⟩
  exact absurd (hgiven.unique hdeleted).1 (by simp)

/-! ## The laws for notices -/

/-- **The last writer wins**, over any history of a directory.

What a name and an address lead to is told by the calls in the history alone. Under a name
stands what the last call about it upserted. Where no namespace has a dot, an address leads
to the record that the last upsert with this address had, provided that no later call is
about the same pod. So a pod that is deleted has no address from then on, whatever record
came with the deletion, until it is upserted again. -/
theorem last_writer_wins (required : KindSet) (logsNodeUpdates : Bool) (notices : List Notice) :
    let d := ((new required logsNodeUpdates).applyAll notices).1
    let calls := notices.filterMap Notice.podCall?
    (∀ name r, d.findByName? name = some r ↔
      ∃ later, LastWhere (PodCall.IsNamed name) calls (.upsert r) later) ∧
    ((∀ c ∈ calls, IsDotless c.record.key.ns) →
      (∀ a r, d.findByAddress? a = some r ↔
        a ≠ "" ∧ ∃ later, LastWhere (PodCall.Gives a) calls (.upsert r) later ∧
          ∀ c ∈ later, c.record.key ≠ r.key) ∧
      ∀ earlier s later, calls = earlier ++ .delete s :: later →
        (∀ c ∈ later, c.record.key ≠ s.key) →
        ∀ a r, d.findByAddress? a = some r → r.key ≠ s.key) := by
  intro d calls
  have hpods : d.podsOnly = (new .empty false).callAll calls :=
    podsOnly_applyAll (new required logsNodeUpdates) notices
  refine ⟨fun name r => ?_, fun hdot => ⟨fun a r => ?_, ?_⟩⟩
  · rw [← findByName?_podsOnly, hpods]
    exact findByName?_callAll calls name r
  · rw [← findByAddress?_podsOnly, hpods]
    exact findByAddress?_callAll hdot a r
  · intro earlier s later hcalls hlater a r h
    rw [← findByAddress?_podsOnly, hpods, hcalls] at h
    rw [hcalls] at hdot
    exact key_ne_of_deleted hdot hlater h

/-- Two pods in turn at one address: the second takes it over and moves on, and it stays
with nobody, although the first pod is still known and was never called about again. -/
theorem last_writer_wins_after_takeover :
    let first : PodRecord := { key := ⟨"a", "default"⟩, address := "10.0.0.1" }
    let second : PodRecord := { key := ⟨"b.c", "default"⟩, address := "10.0.0.1" }
    let moved : PodRecord := { key := ⟨"b.c", "default"⟩, address := "10.0.0.2" }
    let notices : List Notice := [.added (.pod first) true, .added (.pod second) true,
      .updated (.node { name := "b.c" }) (.pod first), .updated (.pod second) (.pod moved)]
    let d := ((new defaultRequired false).applyAll notices).1
    (∀ c ∈ notices.filterMap Notice.podCall?, IsDotless c.record.key.ns) ∧
      d.findByName? "a.default" = some first ∧ d.findByAddress? "10.0.0.2" = some moved ∧
      ∀ r, d.findByAddress? "10.0.0.1" ≠ some r := by
  intro first second moved notices d
  have hcalls : notices.filterMap Notice.podCall?
      = [.upsert first, .upsert second, .upsert moved] := rfl
  have hdot : ∀ c ∈ notices.filterMap Notice.podCall?, IsDotless c.record.key.ns := by
    rw [hcalls]
    decide
  obtain ⟨hname, haddress⟩ := last_writer_wins defaultRequired false notices
  obtain ⟨haddress, -⟩ := haddress hdot
  rw [hcalls] at hname haddress
  refine ⟨hdot, (hname _ _).mpr ?_, (haddress _ _).mpr ⟨by decide, ?_⟩, fun r hr => ?_⟩
  · exact ⟨[.upsert second, .upsert moved], ⟨[], rfl⟩, by decide, by decide⟩
  · exact ⟨[], ⟨⟨[.upsert first, .upsert second], rfl⟩, by decide, by decide⟩, by decide⟩
  · obtain ⟨_, later, hlast, hfree⟩ := (haddress _ r).mp hr
    change LastWhere (α := PodCall) _ ([.upsert first] ++ [.upsert second] ++ [.upsert moved])
      _ _ at hlast
    rw [lastWhere_concat_of_not (by decide)] at hlast
    obtain ⟨rest, rfl, hlast⟩ := hlast
    rw [lastWhere_concat_of_pos (by decide)] at hlast
    obtain rfl : r = second := by simpa using hlast.1
    exact hfree (.upsert moved) (by simp) rfl

end Directory

end PodDirectory
