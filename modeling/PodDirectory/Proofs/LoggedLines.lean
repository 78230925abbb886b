import PodDirectory.Proofs.Histories
import PodDirectory.Tracker

/-!
# What can be logged of what

Every line that a directory logs has a reason. `Notice.Logs` says for a notice which lines there can
be of it, and `Effect.Logs` for an effect. So to learn that something is not logged, or what a line
that is logged is about, it is enough to look at the reasons that it could have
(`Directory.logs_of_mem_performAll`).
-/

namespace PodDirectory

/-! ## Notices and effects -/

/-- **The lines that a directory can log of a notice.** -/
inductive Notice.Logs : Notice → LogEvent → Prop where
  | podAdded (r : PodRecord) : Logs (.added (.pod r) false) (.podAdded r)
  | podUpdated (old r : PodRecord) : Logs (.updated (.pod old) (.pod r)) (.podUpdated old r)
  | podDeleted (r : PodRecord) : Logs (.deleted (.pod r)) (.podDeleted r)
  | addedTakesOver (r : PodRecord) (initial : Bool) (address : String)
    (previous current : PodKey) :
    Logs (.added (.pod r) initial) (.addressTakenOver address previous current)
  | updatedTakesOver (old r : PodRecord) (address : String) (previous current : PodKey) :
    Logs (.updated (.pod old) (.pod r)) (.addressTakenOver address previous current)
  | nodeListed (r : NodeRecord) : Logs (.added (.node r) true) (.nodeListed r)
  | nodeAdded (r : NodeRecord) : Logs (.added (.node r) false) (.nodeAdded r)
  | nodeUpdated (old r : NodeRecord) : Logs (.updated (.node old) (.node r)) (.nodeUpdated r)
  | nodeDeleted (r : NodeRecord) : Logs (.deleted (.node r)) (.nodeDeleted r)
  | sliceAdded (s : SliceRecord) (initial : Bool) : Logs (.added (.slice s) initial) (.sliceAdded s)
  | sliceDeleted (s : SliceRecord) : Logs (.deleted (.slice s)) (.sliceDeleted s)
  | updateDropped {old new : Observation} (h : old.kind ≠ new.kind) :
    Logs (.updated old new) (.updateDropped old.kind new.kind)

/-- A pod that is given an address is said to have taken it over, or nothing is said. -/
theorem AddressTable.exists_of_mem_takeover {t : AddressTable} {r : PodRecord} {event : LogEvent}
    (h : event ∈ t.takeover r) :
    ∃ address previous current, event = .addressTakenOver address previous current := by
  unfold takeover at h
  split at h
  · exact absurd h List.not_mem_nil
  split at h
  · split at h
    · exact absurd h List.not_mem_nil
    · exact ⟨_, _, _, List.mem_singleton.mp h⟩
  · exact absurd h List.not_mem_nil

/-- **A directory logs of a notice what can be logged of it.** -/
theorem Directory.logs_of_mem_apply {d : Directory} {n : Notice} {event : LogEvent}
    (h : event ∈ (d.apply n).2) : n.Logs event := by
  cases n with
  | added what initial =>
    cases what with
    | pod r =>
      rcases List.mem_append.mp h with h | h
      · cases initial with
        | true => exact absurd h List.not_mem_nil
        | false =>
          cases List.mem_singleton.mp h
          exact .podAdded r
      · obtain ⟨address, previous, current, rfl⟩ := AddressTable.exists_of_mem_takeover h
        exact .addedTakesOver r initial address previous current
    | node r =>
      cases initial with
      | true =>
        cases List.mem_singleton.mp h
        exact .nodeListed r
      | false =>
        cases List.mem_singleton.mp h
        exact .nodeAdded r
    | slice s =>
      cases List.mem_singleton.mp h
      exact .sliceAdded s initial
  | updated old new =>
    by_cases hkind : old.kind = new.kind
    · cases old with
      | pod old =>
        cases new with
        | pod r =>
          rcases List.mem_cons.mp h with rfl | h
          · exact .podUpdated old r
          · obtain ⟨address, previous, current, rfl⟩ := AddressTable.exists_of_mem_takeover h
            exact .updatedTakesOver old r address previous current
        | node | slice => cases hkind
      | node old =>
        cases new with
        | node r =>
          have hmem : event ∈ if d.logsNodeUpdates then [LogEvent.nodeUpdated r] else [] := h
          split at hmem
          · cases List.mem_singleton.mp hmem
            exact .nodeUpdated old r
          · exact absurd hmem List.not_mem_nil
        | pod | slice => cases hkind
      | slice old =>
        cases new with
        | slice s => exact absurd h List.not_mem_nil
        | pod | node => cases hkind
    · have hdropped : (d.apply (.updated old new)).2 = [.updateDropped old.kind new.kind] := by
        cases old <;> cases new <;> first | rfl | exact absurd rfl hkind
      rw [hdropped] at h
      cases List.mem_singleton.mp h
      exact .updateDropped hkind
  | deleted what =>
    cases what with
    | pod r =>
      cases List.mem_singleton.mp h
      exact .podDeleted r
    | node r =>
      cases List.mem_singleton.mp h
      exact .nodeDeleted r
    | slice s =>
      cases List.mem_singleton.mp h
      exact .sliceDeleted s

/-- The lines that a directory can log of an effect. -/
inductive Effect.Logs : Effect → LogEvent → Prop where
  | log (event : LogEvent) : Logs (.log event) event
  | notify {n : Notice} {event : LogEvent} (ref : ObjectRef) (h : n.Logs event) :
    Logs (.notify ref n) event
  | markListed (k : Kind) : Logs (.markListed k) (.kindMarked k)

theorem Readiness.eq_of_mem_mark {r : Readiness} {k : Kind} {event : LogEvent}
    (h : event ∈ (r.mark k).2.2) : event = .kindMarked k := by
  unfold mark at h
  split at h
  · exact absurd h List.not_mem_nil
  · exact List.mem_singleton.mp h

/-- **A directory logs of effects what can be logged of one of them.** -/
theorem Directory.logs_of_mem_performAll {d : Directory} {effects : List Effect}
    {event : LogEvent} (h : event ∈ (d.performAll effects).2) :
    ∃ effect ∈ effects, effect.Logs event := by
  obtain ⟨d', effect, hmem, hevent⟩ := Steps.mem_run h
  refine ⟨effect, hmem, ?_⟩
  cases effect with
  | log event' =>
    obtain rfl := List.mem_singleton.mp hevent
    exact .log event
  | notify ref n => exact .notify ref (logs_of_mem_apply hevent)
  | markListed k =>
    obtain rfl := Readiness.eq_of_mem_mark hevent
    exact .markListed k

end PodDirectory
