import PodDirectory.Proofs.MonitorMoves
import PodDirectory.Proofs.PodAgreement

/-!
# The order in which vanished objects are visited does not matter

At the end of a listing the objects that vanished are deleted one after the other. Nodes and
endpoint slices are only logged and counted, so that the order shows in the log at most. Pods
stand in two tables, and where two of them share a name, one deletion can find the record of
the other. That it makes no difference all the same is due to what a tracker has told the
directory before: `Backed` says it, and it needs nothing of the names.

Under `Backed` a pod that is known and gets deleted loses the address of its record and nothing
else (`Backed.findByAddress?_remove`), so that two deletions can change places
(`Backed.remove_comm`). Then so can the visits of any two vanished objects, and with them all
orders come to the same (`Reflected.takes`). A history of a monitor is then as good as a run
(`Monitor.run_of_path`), and at any point of one a listing can be completed in any order
(`Monitor.finishListing_agree`).
-/

namespace PodDirectory

open Std (ExtTreeMap)

/-! ## Steps that can change places -/

/-- **Where any two steps can change places, the order of a run does not matter**: all orders
lead to the same state and leave the same things behind, if not in the same order. -/
theorem Steps.run_perm {σ α β : Type} {step : σ → α → σ × List β} {P : σ → Prop}
    (keeps : ∀ s a, P s → P (step s a).1)
    (swap : ∀ s a b, P s → (step (step s a).1 b).1 = (step (step s b).1 a).1 ∧
      ((step s a).2 ++ (step (step s a).1 b).2).Perm
        ((step s b).2 ++ (step (step s b).1 a).2))
    {as bs : List α} (h : as.Perm bs) {s : σ} (start : P s) :
    (run step s as).1 = (run step s bs).1 ∧ (run step s as).2.Perm (run step s bs).2 := by
  induction h generalizing s with
  | nil => exact ⟨rfl, .refl _⟩
  | cons a h ih =>
    obtain ⟨hstate, hleft⟩ := ih (keeps s a start)
    exact ⟨hstate, hleft.append_left _⟩
  | swap a b as =>
    obtain ⟨hstate, hleft⟩ := swap s b a start
    simp only [run_cons, hstate, true_and]
    rw [← List.append_assoc, ← List.append_assoc]
    exact hleft.append_right _
  | trans _ _ ih ih' =>
    obtain ⟨hstate, hleft⟩ := ih start
    obtain ⟨hstate', hleft'⟩ := ih' start
    exact ⟨hstate.trans hstate', hleft.trans hleft'⟩

/-! ## What a tracker has told the directory of pods -/

/-- **A tracker of pods backs a directory**: what stands under a name is known. This holds
whatever the pods are called, also of pods that share a name. -/
structure Backed (known : ExtTreeMap ObjectRef PodRecord) (d : Directory) : Prop
    extends d.Indexed where
  ref_eq : ∀ {ref : ObjectRef} {r : PodRecord}, known[ref]? = some r → ref = r.key.ref
  known_eq : ∀ {name : String} {r : PodRecord}, d.findByName? name = some r →
    known[r.key.ref]? = some r
  /-- A pod that shares a name with another one does not have the address of the record that
  stands there. -/
  key_eq : ∀ {r holder : PodRecord}, d.findByName? holder.key.text = some r →
    d.findByAddress? r.address = some holder → holder.key = r.key

theorem backed_new (required : KindSet) (logsNodeUpdates : Bool) :
    Backed ∅ (.new required logsNodeUpdates) where
  toIndexed := (Directory.consistent_new required logsNodeUpdates).toIndexed
  ref_eq h := by simp at h
  known_eq h := by simp [Directory.findByName?, Directory.new] at h
  key_eq h := by simp [Directory.findByName?, Directory.new] at h

namespace AddressTable

/-- A release takes an address from the pod that releases it, if it has it. -/
theorem getElem?_release_eq_filter_not (t : AddressTable) (key : PodKey) {address : String}
    (hempty : t[""]? = none) (a : String) :
    (t.release key address)[a]?
      = (t[a]?).filter fun holder => ¬ (holder.key = key ∧ a = address) := by
  rw [getElem?_release_eq_filter_holder]
  cases ht : t[a]? with
  | none => rfl
  | some holder =>
    have hne : a ≠ "" := by
      rintro rfl
      rw [hempty] at ht
      cases ht
    simp [hne]

end AddressTable

namespace Backed

variable {known : ExtTreeMap ObjectRef PodRecord} {d : Directory} {r : PodRecord}

/-- A pod that is upserted is known from then on. -/
theorem insert (h : Backed known d) : Backed (known.insert r.key.ref r) (d.upsert r) where
  toIndexed := h.toIndexed.upsert r
  ref_eq := forall_getElem?_insert h.ref_eq rfl
  known_eq {name r'} hn := by
    rw [Directory.findByName?_upsert] at hn
    rw [ExtTreeMap.getElem?_insert]
    split at hn
    · obtain rfl := Option.some.inj hn
      simp
    · next hne =>
      have hkey : r.key ≠ r'.key := fun hk => hne (by rw [hk, h.text_eq hn])
      rw [if_neg (by simpa [PodKey.ref_inj] using hkey)]
      exact h.known_eq hn
  key_eq {r' holder} hn ha := by
    rcases d.of_findByAddress?_upsert r ha with ⟨_, _, rfl⟩ | hold
    · rw [Directory.findByName?_upsert, if_pos rfl] at hn
      rw [Option.some.inj hn]
    · rw [Directory.findByName?_upsert] at hn
      split at hn
      · -- the new record has its address itself, if it has one
        obtain rfl := Option.some.inj hn
        have hne : r.address ≠ "" := ((h.toIndexed.upsert r).address_eq ha).1
        rw [d.findByAddress?_upsert_self r hne] at ha
        rw [Option.some.inj ha]
      · exact h.key_eq hn hold

/-- A pod that is removed is not known from then on. -/
theorem erase (h : Backed known d) : Backed (known.erase r.key.ref) (d.remove r) where
  toIndexed := h.toIndexed.remove r
  ref_eq hk := h.ref_eq (of_getElem?_erase hk)
  known_eq {name r'} hn := by
    rw [Directory.findByName?_remove] at hn
    split at hn
    · cases hn
    · next hne =>
      have hkey : r.key ≠ r'.key := fun hk => hne (by rw [hk, h.text_eq hn])
      rw [ExtTreeMap.getElem?_erase, if_neg (by simpa [PodKey.ref_inj] using hkey)]
      exact h.known_eq hn
  key_eq {r' holder} hn ha := by
    rw [Directory.findByName?_remove] at hn
    split at hn
    · cases hn
    · exact h.key_eq hn (d.of_findByAddress?_remove r ha)

/-- **A known pod that is removed loses the address of its record**, and nobody else loses
one. -/
theorem findByAddress?_remove (h : Backed known d) (hr : known[r.key.ref]? = some r)
    (a : String) :
    (d.remove r).findByAddress? a
      = (d.findByAddress? a).filter fun holder => ¬ (holder.key = r.key ∧ a = r.address) := by
  have hempty : d.byAddress[""]? = none := h.findByAddress?_empty
  have hdelivered : ∀ a, (d.byAddress.release r.key r.address)[a]? = _ :=
    d.byAddress.getElem?_release_eq_filter_not r.key hempty
  show (d.abandoned r)[a]? = _
  unfold Directory.abandoned
  cases hs : d.byName[r.key.text]? with
  | none => exact hdelivered a
  | some stored =>
    -- the second release takes away nothing that the first one has left
    dsimp only
    rw [AddressTable.getElem?_release_eq_filter_not _ _ (by simp [hdelivered, hempty]), hdelivered]
    show ((d.findByAddress? a).filter _).filter _ = _
    cases ha : d.findByAddress? a with
    | none => rfl
    | some holder =>
      have hstored : holder.key = r.key ∧ a = stored.address → a = r.address := by
        rintro ⟨hk, rfl⟩
        have hkey : holder.key = stored.key := h.key_eq (by rw [hk]; exact hs) ha
        have hknown : known[stored.key.ref]? = some stored := h.known_eq hs
        rw [← hkey, hk, hr] at hknown
        rw [Option.some.inj hknown]
      by_cases hp : holder.key = r.key ∧ a = r.address
      · simp [Option.filter_some, hp]
      · have hp' : ¬ (holder.key = r.key ∧ a = stored.address) := fun hk =>
          hp ⟨hk.1, hstored hk⟩
        simp only [Option.filter_some, hp, hp', not_false_eq_true, decide_true, if_true]

/-- **Two known pods can be removed in either order.** -/
theorem remove_comm (h : Backed known d) {r' : PodRecord} (hr : known[r.key.ref]? = some r)
    (hr' : known[r'.key.ref]? = some r') (hne : r.key ≠ r'.key) :
    (d.remove r).remove r' = (d.remove r').remove r := by
  have hfirst : (known.erase r'.key.ref)[r.key.ref]? = some r := by
    rw [ExtTreeMap.getElem?_erase, if_neg (by simpa [PodKey.ref_inj] using hne.symm), hr]
  have hsecond : (known.erase r.key.ref)[r'.key.ref]? = some r' := by
    rw [ExtTreeMap.getElem?_erase, if_neg (by simpa [PodKey.ref_inj] using hne), hr']
  have hname : ((d.remove r).remove r').byName = ((d.remove r').remove r).byName := by
    refine ExtTreeMap.ext_getElem? fun name => ?_
    show ((d.remove r).remove r').findByName? name = ((d.remove r').remove r).findByName? name
    simp only [Directory.findByName?_remove]
    split <;> split <;> rfl
  refine Directory.ext rfl rfl hname ?_ ?_ rfl rfl rfl
  · refine ExtTreeMap.ext_getElem? fun a => ?_
    show ((d.remove r).remove r').findByAddress? a = ((d.remove r').remove r).findByAddress? a
    rw [h.erase.findByAddress?_remove hsecond, h.findByAddress?_remove hr,
      h.erase.findByAddress?_remove hfirst, h.findByAddress?_remove hr', Option.filter_filter,
      Option.filter_filter]
    simp only [Bool.and_comm]
  · rw [(h.erase.erase (r := r')).pods_eq, (h.erase.erase (r := r)).pods_eq, hname]

theorem keptByCalls : KeptByCalls Backed (fun _ => True) where
  known_key h hk := ⟨h.ref_eq hk, trivial⟩
  insert h _ := h.insert
  erase h _ := h.erase

/-- **An event at the tracker of pods keeps a directory backed.** -/
theorem follows {s s' : Tracker .pod × Directory} {e : WatchEvent .pod} (h : Backed s.1.known s.2)
    (step : Follows s e s') : Backed s'.1.known s'.2 := by
  obtain ⟨effects, htakes, hd⟩ := step
  rw [hd]
  exact keptByCalls.outcome h htakes.outcome fun _ _ => trivial

/-- Only what a directory has of pods is backed. -/
theorem of_podsOnly (h : Backed known d.podsOnly) : Backed known d where
  toIndexed := h.toIndexed.of_podsOnly
  ref_eq := h.ref_eq
  known_eq := h.known_eq
  key_eq := h.key_eq

end Backed

/-! ## Visiting one object after the other -/

namespace Tracker

variable {k : Kind}

/-- **Visits an object that has vanished**: the tracker forgets it, and the directory is told
that it is gone. -/
def visit (s : Tracker k × Directory) (ref : ObjectRef) : (Tracker k × Directory) × List LogEvent :=
  match s.1.known[ref]? with
  | none => (s, [])
  | some last =>
    let (directory, logged) := s.2.delete (.ofRecord k last)
    (({ s.1 with known := s.1.known.erase ref }, directory), .vanished k ref :: logged)

theorem visit_of_none {t : Tracker k} {ref : ObjectRef} (h : t.known[ref]? = none)
    (d : Directory) : visit (t, d) ref = ((t, d), []) := by
  unfold visit
  rw [h]

theorem visit_of_some {t : Tracker k} {ref : ObjectRef} {last : k.Record}
    (h : t.known[ref]? = some last) (d : Directory) :
    visit (t, d) ref
      = (({ t with known := t.known.erase ref }, (d.delete (.ofRecord k last)).1),
          .vanished k ref :: (d.delete (.ofRecord k last)).2) := by
  unfold visit
  rw [h]

/-- To forget objects and then do what is to be done is to visit them. -/
theorem run_visit (t : Tracker k) (d : Directory) (gone : List ObjectRef) :
    Steps.run visit (t, d) gone
      = (((t.forget gone).1, (d.performAll (t.forget gone).2).1),
          (d.performAll (t.forget gone).2).2) := by
  induction gone generalizing t d with
  | nil => rfl
  | cons g gone ih =>
    rw [Steps.run_cons]
    cases hg : t.known[g]? with
    | none =>
      simp only [visit_of_none hg, ih, forget, hg]
      rfl
    | some last =>
      simp only [visit_of_some hg, ih, forget, hg]
      rfl

/-- **What a tracker has told the directory of its kind.** Only for pods this matters. -/
def Reflected : (k : Kind) → Tracker k → Directory → Prop
  | .pod, t, d => Backed t.known d
  | .node, _, _ => True
  | .endpointSlice, _, _ => True

end Tracker

namespace Directory

/-- What is logged of a deletion is told by the record that comes with it. -/
theorem logged_delete (d d' : Directory) (what : Observation) :
    (d.delete what).2 = (d'.delete what).2 := by
  cases what <;> rfl

/-- Slices that are gone can be counted in either order. -/
theorem countSlices_comm (d : Directory) (slices addresses slices' addresses' : Int64) :
    (d.countSlices slices addresses).countSlices slices' addresses'
      = (d.countSlices slices' addresses').countSlices slices addresses := by
  unfold countSlices
  refine Directory.ext rfl rfl rfl rfl rfl ?_ ?_ rfl
  · show d.slices + slices + slices' = d.slices + slices' + slices
    rw [Int64.add_assoc, Int64.add_comm slices, Int64.add_assoc]
  · show d.sliceAddresses + addresses + addresses' = d.sliceAddresses + addresses' + addresses
    rw [Int64.add_assoc, Int64.add_comm addresses, Int64.add_assoc]

end Directory

namespace Tracker

variable {k : Kind}

/-- **Two known objects can be deleted in either order.** -/
theorem Reflected.delete_comm {t : Tracker k} {d : Directory} (h : Reflected k t d)
    {a b : ObjectRef} (hne : a ≠ b) {lastA lastB : k.Record} (ha : t.known[a]? = some lastA)
    (hb : t.known[b]? = some lastB) :
    ((d.delete (.ofRecord k lastA)).1.delete (.ofRecord k lastB)).1
      = ((d.delete (.ofRecord k lastB)).1.delete (.ofRecord k lastA)).1 := by
  cases k with
  | pod =>
    have hbacked : Backed t.known d := h
    obtain rfl := hbacked.ref_eq ha
    obtain rfl := hbacked.ref_eq hb
    exact hbacked.remove_comm ha hb fun hk => hne (congrArg PodKey.ref hk)
  | node => rfl
  | endpointSlice => exact d.countSlices_comm _ _ _ _

/-- A visit keeps what the directory has been told. -/
theorem Reflected.visit {s : Tracker k × Directory} (h : Reflected k s.1 s.2) (ref : ObjectRef) :
    Reflected k (Tracker.visit s ref).1.1 (Tracker.visit s ref).1.2 := by
  obtain ⟨t, d⟩ := s
  cases hr : t.known[ref]? with
  | none =>
    rw [visit_of_none hr]
    exact h
  | some last =>
    rw [visit_of_some hr]
    cases k with
    | pod =>
      have hbacked : Backed t.known d := h
      obtain rfl := hbacked.ref_eq hr
      exact hbacked.erase
    | node => trivial
    | endpointSlice => trivial

/-- **Two objects can be visited in either order.** -/
theorem Reflected.visit_swap {s : Tracker k × Directory} (h : Reflected k s.1 s.2)
    (a b : ObjectRef) :
    (Tracker.visit (Tracker.visit s a).1 b).1 = (Tracker.visit (Tracker.visit s b).1 a).1 ∧
      ((Tracker.visit s a).2 ++ (Tracker.visit (Tracker.visit s a).1 b).2).Perm
        ((Tracker.visit s b).2 ++ (Tracker.visit (Tracker.visit s b).1 a).2) := by
  by_cases hne : a = b
  · subst hne
    exact ⟨rfl, .refl _⟩
  obtain ⟨t, d⟩ := s
  have hother : ∀ {x y : ObjectRef}, x ≠ y → (t.known.erase x)[y]? = t.known[y]? := by
    intro x y hxy
    rw [ExtTreeMap.getElem?_erase, if_neg (by simpa using hxy)]
  cases ha : t.known[a]? with
  | none =>
    cases hb : t.known[b]? with
    | none => simp [visit_of_none ha, visit_of_none hb]
    | some lastB =>
      have ha' : ({ t with known := t.known.erase b } : Tracker k).known[a]? = none :=
        (hother (Ne.symm hne)).trans ha
      simp [visit_of_none ha, visit_of_some hb, visit_of_none ha']
  | some lastA =>
    cases hb : t.known[b]? with
    | none =>
      have hb' : ({ t with known := t.known.erase a } : Tracker k).known[b]? = none :=
        (hother hne).trans hb
      simp [visit_of_some ha, visit_of_none hb, visit_of_none hb']
    | some lastB =>
      have ha' : ({ t with known := t.known.erase b } : Tracker k).known[a]? = some lastA :=
        (hother (Ne.symm hne)).trans ha
      have hb' : ({ t with known := t.known.erase a } : Tracker k).known[b]? = some lastB :=
        (hother hne).trans hb
      simp only [visit_of_some ha, visit_of_some hb, visit_of_some ha', visit_of_some hb']
      refine ⟨Prod.ext (Tracker.ext ?_ rfl rfl) (h.delete_comm hne ha hb), ?_⟩
      · refine ExtTreeMap.ext_getElem? fun ref => ?_
        simp only [ExtTreeMap.getElem?_erase]
        split <;> split <;> rfl
      · -- the lines of one deletion do not depend on the other
        rw [Directory.logged_delete _ d (.ofRecord k lastB),
          Directory.logged_delete (d.delete (.ofRecord k lastB)).1 d (.ofRecord k lastA)]
        exact List.perm_append_comm

/-- **The order in which vanished objects are visited does not matter** to the end of a
listing. -/
theorem Reflected.finishListing {t : Tracker k} {d : Directory} (h : Reflected k t d)
    {gone gone' : List ObjectRef} (hgone : gone.Perm gone') :
    (t.finishListing gone).1 = (t.finishListing gone').1 ∧
      (d.performAll (t.finishListing gone).2).1 = (d.performAll (t.finishListing gone').2).1 ∧
      (d.performAll (t.finishListing gone).2).2.Perm
        (d.performAll (t.finishListing gone').2).2 := by
  let ended : Tracker k := { t with listing := none }
  have hended : Reflected k ended d := by cases k <;> exact h
  obtain ⟨hstate, hlogged⟩ := Steps.run_perm (P := fun s => Reflected k s.1 s.2)
    (fun s ref hs => hs.visit ref) (fun s a b hs => hs.visit_swap a b) hgone (s := (ended, d))
    hended
  rw [run_visit, run_visit] at hstate hlogged
  obtain ⟨htracker, hdirectory⟩ := Prod.ext_iff.mp hstate
  -- what comes after the visits depends on what is known then, and on nothing else
  let rest (left : Tracker k) : List Effect :=
    (if t.listedOnce then [] else [.log (.firstListing k left.known.size)]) ++ [.markListed k]
  have hfinish : ∀ gone, t.finishListing gone =
      ({ (ended.forget gone).1 with listedOnce := true },
        (ended.forget gone).2 ++ rest (ended.forget gone).1) := fun gone =>
    Prod.ext rfl (List.append_assoc ..)
  simp only at htracker hdirectory hlogged
  simp only [hfinish, Directory.performAll, Steps.run_append] at hdirectory hlogged ⊢
  rw [htracker, hdirectory]
  exact ⟨rfl, rfl, hlogged.append_right _⟩

/-- **The order in which vanished objects are visited does not matter**: whatever order an
event is taken in, it comes to what the step comes to. -/
theorem Reflected.takes {t t' : Tracker k} {d : Directory} (h : Reflected k t d)
    {e : WatchEvent k} {effects : List Effect} (step : t.Takes e t' effects) :
    t' = (t.step e).1 ∧ (d.performAll effects).1 = (d.performAll (t.step e).2).1 ∧
      (d.performAll effects).2.Perm (d.performAll (t.step e).2).2 := by
  cases step with
  | step => exact ⟨rfl, rfl, .refl _⟩
  | listingDone hgone => exact h.finishListing hgone

end Tracker

/-! ## Monitors -/

namespace Monitor

/-- **What stands in the directory of a monitor is known to its tracker**, as long as nobody
else tells of pods. -/
theorem Takes.backed {m m' : Monitor} {s : MonitorStep} (h : Takes m s m')
    (hspare : s.SparesPods) (hm : Backed m.pods.known m.directory.podsOnly) :
    Backed m'.pods.known m'.directory.podsOnly := by
  cases hs : s.podEvent? with
  | some e => exact hm.follows (h.follows hs)
  | none =>
    show Backed m'.podsPart.1.known m'.podsPart.2
    rw [h.podsPart_eq hspare hs]
    exact hm

/-- **A move comes to what the step comes to**, whatever order it visits in. -/
theorem Move.Leads.eq_step {m m' : Monitor} {move : Move} (h : move.Leads m m')
    (hm : Backed m.pods.known m.directory.podsOnly) :
    m' = (m.step move.step).1 ∧ move.logged.Perm (m.step move.step).2.2 := by
  cases h with
  | step => exact ⟨rfl, .refl _⟩
  | @watch k e t effects ht =>
    have hreflected : Tracker.Reflected k (m.tracker k) m.directory := by
      cases k with
      | pod => exact hm.of_podsOnly
      | node => trivial
      | endpointSlice => trivial
    obtain ⟨htracker, hdirectory, hlogged⟩ := hreflected.takes ht
    refine ⟨?_, hlogged⟩
    rw [htracker, hdirectory]
    rfl

/-- **A history comes to what the run comes to**, whatever orders it visits in, as long as
nobody else tells of pods. -/
theorem run_of_path {m m' : Monitor} {moves : List Move}
    (path : Steps.Path Move.Leads m moves m')
    (hspare : ∀ move ∈ moves, move.step.SparesPods)
    (hm : Backed m.pods.known m.directory.podsOnly) :
    m' = (m.run (moves.map Move.step)).1 ∧
      (moves.flatMap Move.logged).Perm (m.run (moves.map Move.step)).2 := by
  induction path with
  | nil => exact ⟨rfl, .refl _⟩
  | @cons m next last move moves first rest ih =>
    obtain ⟨hnext, hlogged⟩ := first.eq_step hm
    have hbacked := first.takes.backed (hspare move List.mem_cons_self) hm
    obtain ⟨hlast, hrest⟩ := ih (fun move hmem => hspare move (List.mem_cons_of_mem _ hmem)) hbacked
    rw [hnext] at hlast hrest
    exact ⟨hlast, hlogged.append hrest⟩

/-- **What stands in the directory is known all along**, if it is told of pods by their tracker
alone; nothing of this sort is needed of other kinds. -/
theorem reflected_of_path {required : KindSet} {logsNodeUpdates : Bool} {moves : List Move}
    {m : Monitor}
    (path : Steps.Path Move.Leads { directory := .new required logsNodeUpdates } moves m)
    {k : Kind} (hspare : k = .pod → ∀ move ∈ moves, move.step.SparesPods) :
    Tracker.Reflected k (m.tracker k) m.directory := by
  cases k with
  | pod =>
    have hbacked : Backed m.pods.known m.directory.podsOnly :=
      path.keeps (P := fun m => Backed m.pods.known m.directory.podsOnly)
        (fun _ move _ hmem h hm => h.takes.backed (hspare rfl move hmem) hm)
        (backed_new .empty false)
    exact hbacked.of_podsOnly
  | node => trivial
  | endpointSlice => trivial

/-- Completes the listing of a kind, deleting the vanished objects in the order given. -/
def finishListing (m : Monitor) (k : Kind) (gone : List ObjectRef) : Monitor × List LogEvent :=
  let (tracker, effects) := (m.tracker k).finishListing gone
  let (directory, logged) := m.directory.performAll effects
  ({ m.setTracker k tracker with directory }, logged)

theorem finishListing_fst (m : Monitor) (k : Kind) (gone : List ObjectRef) :
    (m.finishListing k gone).1 =
      { m.setTracker k ((m.tracker k).finishListing gone).1 with
        directory := (m.directory.performAll ((m.tracker k).finishListing gone).2).1 } :=
  rfl

/-- **The order in which vanished objects are visited does not matter**: whatever has happened to a
monitor, the listing of a kind comes to the same monitor when it is done, and to the same lines up
to their order. -/
theorem finishListing_agree {required : KindSet} {logsNodeUpdates : Bool} {moves : List Move}
    {m : Monitor}
    (path : Steps.Path Move.Leads { directory := .new required logsNodeUpdates } moves m)
    {k : Kind} (hspare : k = .pod → ∀ move ∈ moves, move.step.SparesPods)
    {gone gone' : List ObjectRef} (hgone : gone.Perm (m.tracker k).vanished)
    (hgone' : gone'.Perm (m.tracker k).vanished) :
    (m.finishListing k gone).1 = (m.finishListing k gone').1 ∧
      (m.finishListing k gone).2.Perm (m.finishListing k gone').2 ∧
      (m.finishListing k gone).1 = (m.watch k .listingDone).1 := by
  have hreflected := reflected_of_path path hspare
  have hstate : ∀ {gone gone' : List ObjectRef}, gone.Perm gone' →
      (m.finishListing k gone).1 = (m.finishListing k gone').1 := by
    intro gone gone' h
    obtain ⟨htracker, hdirectory, -⟩ := hreflected.finishListing h
    rw [finishListing_fst, finishListing_fst, htracker, hdirectory]
  obtain ⟨-, -, hlogged⟩ := hreflected.finishListing (hgone.trans hgone'.symm)
  exact ⟨hstate (hgone.trans hgone'.symm), hlogged, hstate hgone⟩

/-- Two pods share a name and have had one address after the other, and both have vanished, with a
third pod that has the address now. -/
theorem finishListing_agree_of_shared_name :
    let pod (name ns : String) : Pod :=
      { metadata := { name := some name, ns := some ns }, status := some { podIP := "10.0.0.1" } }
    let steps : List MonitorStep := [.watch .pod (.changed (pod "a" "b.c")),
      .watch .pod (.changed (pod "a.b" "c")), .watch .pod (.changed (pod "d" "c")),
      .watch .pod .listingStarted]
    let m := (run { directory := .new Directory.defaultRequired false } steps).1
    let gone := m.pods.vanished
    gone.length = 3 ∧ m.directory.stats.pods = 2 ∧
      (m.finishListing .pod gone.reverse).1 = (m.finishListing .pod gone).1 ∧
      (m.finishListing .pod gone.reverse).2.Perm (m.finishListing .pod gone).2 ∧
      (m.finishListing .pod gone.reverse).2 ≠ (m.finishListing .pod gone).2 := by
  intro pod steps m gone
  let start : Monitor := { directory := .new Directory.defaultRequired false }
  have path : Steps.Path Move.Leads start (start.movesOf steps) m := start.path_movesOf steps
  have hspare : ∀ s ∈ steps, s.SparesPods := by decide
  have hmoves : ∀ move ∈ start.movesOf steps, move.step.SparesPods := fun move hmove =>
    hspare _ (start.step_movesOf steps ▸ List.mem_map_of_mem hmove)
  obtain ⟨hstate, hlogged, -⟩ := finishListing_agree path (fun _ => hmoves) gone.reverse_perm
    (List.Perm.refl gone)
  exact ⟨by decide +kernel, by decide +kernel, hstate, hlogged, by decide +kernel⟩

end Monitor

end PodDirectory
