import PodDirectory.Proofs.LoggedLines
import PodDirectory.Proofs.TrackerSteps

/-!
# A tracker tells of its own kind only

All notices of a tracker are about objects of the kind that it follows, and so are both
sides of its updates (`Tracker.Outcome.isOfKind`). A directory drops an update that would
change the kind of an object, and nothing else, so it never drops a notice of a tracker
(`Directory.updateDropped_notMem_performAll`).
-/

namespace PodDirectory

/-! ## Notices of one kind -/

/-- Whether both sides of a notice are of a kind. -/
def Notice.IsOfKind (k : Kind) : Notice → Prop
  | .added what _ => what.kind = k
  | .updated old new => old.kind = k ∧ new.kind = k
  | .deleted what => what.kind = k

/-- **An update is dropped exactly if it would change the kind of an object.** -/
theorem Directory.updateDropped_mem_update_iff (d : Directory) (a b : Observation)
    (old new : Kind) :
    .updateDropped old new ∈ (d.update a b).2 ↔ a.kind ≠ b.kind ∧ old = a.kind ∧ new = b.kind := by
  constructor
  · intro h
    have hmem : .updateDropped old new ∈ (d.apply (.updated a b)).2 := h
    cases logs_of_mem_apply hmem with
    | updateDropped hne => exact ⟨hne, rfl, rfl⟩
  · rintro ⟨hne, rfl, rfl⟩
    cases a <;> cases b <;> first | exact absurd rfl hne | exact List.mem_singleton_self _

/-- Whether an effect of a tracker is about objects of its kind, and no complaint about an
update. -/
def Effect.IsOfKind (k : Kind) : Effect → Prop
  | .log event => ∀ old new, event ≠ .updateDropped old new
  | .notify _ notice => notice.IsOfKind k
  | .markListed _ => True

/-- **Effects of one kind have no update dropped**, in any directory. -/
theorem Directory.updateDropped_notMem_performAll {k : Kind} {effects : List Effect}
    (h : ∀ effect ∈ effects, effect.IsOfKind k) (d : Directory) (old new : Kind) :
    .updateDropped old new ∉ (d.performAll effects).2 := by
  intro hmem
  obtain ⟨effect, heffect, hlogs⟩ := logs_of_mem_performAll hmem
  have hkind := h effect heffect
  cases hlogs with
  | log => exact hkind old new rfl
  | notify ref hlogs =>
    cases hlogs with
    | updateDropped hne => exact hne (hkind.1.trans hkind.2.symm)

namespace Tracker

variable {k : Kind}

theorem isOfKind_noticeOf (t : Tracker k) (ref : ObjectRef) (record : k.Record)
    (initial : Bool) : (t.noticeOf ref record initial).IsOfKind k := by
  unfold noticeOf
  split <;> simp [Notice.IsOfKind]

/-- **All effects of a tracker are of its kind.** -/
theorem Outcome.isOfKind {t t' : Tracker k} {e : WatchEvent k} {effects : List Effect}
    (h : Outcome t e t' effects) : ∀ effect ∈ effects, effect.IsOfKind k := by
  intro effect hmem
  cases h.causes hmem with
  | started | dropped | vanished | firstListing => exact nofun
  | delivered => exact isOfKind_noticeOf ..
  | deleted | forgotten => exact Observation.kind_ofRecord k _
  | marked => trivial

end Tracker

end PodDirectory
