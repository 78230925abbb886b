import Mathlib.Data.List.Induction
import PodDirectory.Steps

/-!
# Histories

Two notions for histories of any kind, which are lists with the earliest thing first.

* `LastWhere`: the last thing of its sort in a history, together with all that came after it.
* `Steps.Path`: a history of steps where a step can have more than one outcome. Where every
  step has one outcome, a path is a run (`Steps.path_run`).

The laws of both follow a history along: they say what one more thing at the end changes.
-/

namespace PodDirectory

/-! ## The last element such that -/

section LastWhere

variable {α : Type} {P : α → Prop} {as : List α} {x a : α} {later : List α}

/-- **The last of a list such that**: `a` is in the list with `later` behind it, `P` is true
of `a`, and of nothing behind it. -/
def LastWhere (P : α → Prop) (as : List α) (a : α) (later : List α) : Prop :=
  (∃ earlier, as = earlier ++ a :: later) ∧ P a ∧ ∀ x ∈ later, ¬ P x

theorem not_lastWhere_nil : ¬ LastWhere P [] a later := by
  rintro ⟨⟨earlier, h⟩, -⟩
  simp at h

/-- With one more at the end, that one is the last such that; or it is not such, and the
last one is the one it was. -/
theorem lastWhere_concat :
    LastWhere P (as ++ [x]) a later ↔
      (P x ∧ a = x ∧ later = []) ∨
        (¬ P x ∧ ∃ rest, later = rest ++ [x] ∧ LastWhere P as a rest) := by
  constructor
  · rintro ⟨⟨earlier, h⟩, ha, hlater⟩
    -- the new element is the last one itself, or it ends what comes behind
    rcases List.eq_nil_or_concat later with rfl | ⟨rest, y, rfl⟩
    · obtain ⟨-, hx⟩ := List.append_inj' h rfl
      obtain rfl : x = a := by simpa using hx
      exact Or.inl ⟨ha, rfl, rfl⟩
    · rw [List.concat_eq_append, ← List.cons_append, ← List.append_assoc] at h
      obtain ⟨has, hx⟩ := List.append_inj' h rfl
      obtain rfl : x = y := by simpa using hx
      refine Or.inr ⟨hlater x (by simp), rest, List.concat_eq_append, ⟨earlier, has⟩, ha, ?_⟩
      exact fun z hz => hlater z (by simp [hz])
  · rintro (⟨hx, rfl, rfl⟩ | ⟨hx, rest, rfl, ⟨earlier, rfl⟩, ha, hrest⟩)
    · exact ⟨⟨as, rfl⟩, hx, fun z hz => absurd hz List.not_mem_nil⟩
    · refine ⟨⟨earlier, by simp⟩, ha, fun z hz => ?_⟩
      rcases List.mem_append.mp hz with hz | hz
      · exact hrest z hz
      · obtain rfl : z = x := by simpa using hz
        exact hx

/-- One more at the end that is not such leaves the last one, and comes behind it. -/
theorem lastWhere_concat_of_not (hx : ¬ P x) :
    LastWhere P (as ++ [x]) a later ↔ ∃ rest, later = rest ++ [x] ∧ LastWhere P as a rest := by
  rw [lastWhere_concat]
  simp [hx]

/-- One more at the end that is such is the last one. -/
theorem lastWhere_concat_of_pos (hx : P x) :
    LastWhere P (as ++ [x]) a later ↔ a = x ∧ later = [] := by
  rw [lastWhere_concat]
  simp [hx]

/-- What is the last one of a part at the end is the last one of all. -/
theorem LastWhere.append_left (h : LastWhere P as a later) (earlier : List α) :
    LastWhere P (earlier ++ as) a later := by
  obtain ⟨⟨before, rfl⟩, ha, hlater⟩ := h
  exact ⟨⟨earlier ++ before, by simp⟩, ha, hlater⟩

/-- Where there is one such, there is a last one. -/
theorem exists_lastWhere (h : ∃ x ∈ as, P x) : ∃ a later, LastWhere P as a later := by
  induction as with
  | nil =>
    obtain ⟨x, hx, -⟩ := h
    exact absurd hx List.not_mem_nil
  | cons y as ih =>
    by_cases hrest : ∃ x ∈ as, P x
    · obtain ⟨a, later, hlast⟩ := ih hrest
      exact ⟨a, later, hlast.append_left [y]⟩
    · obtain ⟨x, hx, hPx⟩ := h
      rcases List.mem_cons.mp hx with rfl | hx
      · exact ⟨x, as, ⟨[], rfl⟩, hPx, fun z hz hPz => hrest ⟨z, hz, hPz⟩⟩
      · exact absurd ⟨x, hx, hPx⟩ hrest

/-- There is one last one at most. -/
theorem LastWhere.unique {a' : α} {later' : List α} (h : LastWhere P as a later)
    (h' : LastWhere P as a' later') : a = a' ∧ later = later' := by
  induction as using List.reverseRecOn generalizing later later' with
  | nil => exact absurd h not_lastWhere_nil
  | append_singleton as x ih =>
    by_cases hx : P x
    · obtain ⟨rfl, rfl⟩ := (lastWhere_concat_of_pos hx).mp h
      obtain ⟨rfl, rfl⟩ := (lastWhere_concat_of_pos hx).mp h'
      exact ⟨rfl, rfl⟩
    · obtain ⟨rest, rfl, hrest⟩ := (lastWhere_concat_of_not hx).mp h
      obtain ⟨rest', rfl, hrest'⟩ := (lastWhere_concat_of_not hx).mp h'
      obtain ⟨rfl, rfl⟩ := ih hrest hrest'
      exact ⟨rfl, rfl⟩

/-- If there is one such behind some place, the last one is behind it. -/
theorem LastWhere.mem_behind {Q : α → Prop} {b : α} {behind : List α}
    (h : LastWhere P as a later) (hb : LastWhere Q as b behind) (hx : ∃ x ∈ behind, P x) :
    a ∈ behind := by
  obtain ⟨⟨earlier, rfl⟩, -⟩ := hb
  obtain ⟨a', rest, hlast⟩ := exists_lastWhere hx
  obtain ⟨rfl, -⟩ := h.unique ((hlast.append_left [b]).append_left earlier)
  obtain ⟨⟨between, rfl⟩, -⟩ := hlast
  simp

end LastWhere

/-! ## Steps with several outcomes -/

namespace Steps

variable {σ α : Type} {takes : σ → α → σ → Prop}

/-- **Steps of a relation**, taken one after the other. -/
inductive Path (takes : σ → α → σ → Prop) : σ → List α → σ → Prop where
  | nil (s : σ) : Path takes s [] s
  | cons {s next last : σ} {a : α} {as : List α} (first : takes s a next)
      (rest : Path takes next as last) : Path takes s (a :: as) last

theorem path_nil_iff {s last : σ} : Path takes s [] last ↔ last = s := by
  constructor
  · rintro ⟨⟩
    rfl
  · rintro rfl
    exact .nil _

theorem path_cons_iff {s last : σ} {a : α} {as : List α} :
    Path takes s (a :: as) last ↔ ∃ next, takes s a next ∧ Path takes next as last := by
  constructor
  · rintro (_ | ⟨first, rest⟩)
    exact ⟨_, first, rest⟩
  · rintro ⟨_, first, rest⟩
    exact .cons first rest

/-- A path of two parts is a path of the first and then of the second. -/
theorem path_append_iff {s last : σ} {first second : List α} :
    Path takes s (first ++ second) last ↔
      ∃ mid, Path takes s first mid ∧ Path takes mid second last := by
  induction first generalizing s with
  | nil => simp [path_nil_iff]
  | cons a as ih =>
    simp only [List.cons_append, path_cons_iff, ih]
    constructor
    · rintro ⟨next, ha, mid, has, rest⟩
      exact ⟨mid, ⟨next, ha, has⟩, rest⟩
    · rintro ⟨mid, ⟨next, ha, has⟩, rest⟩
      exact ⟨next, ha, mid, has, rest⟩

theorem path_concat_iff {s last : σ} {a : α} {as : List α} :
    Path takes s (as ++ [a]) last ↔ ∃ mid, Path takes s as mid ∧ takes mid a last := by
  simp [path_append_iff, path_cons_iff, path_nil_iff]

/-- What every step keeps that is in the path, the path keeps. -/
theorem Path.keeps {P : σ → Prop} {s last : σ} {as : List α} (path : Path takes s as last)
    (keeps : ∀ s a next, a ∈ as → takes s a next → P s → P next) (start : P s) : P last := by
  induction path with
  | nil => exact start
  | cons first rest ih =>
    refine ih (fun s a next ha => keeps s a next (List.mem_cons_of_mem _ ha)) ?_
    exact keeps _ _ _ List.mem_cons_self first start

/-- **A path seen through part of the states** is a path of the steps that have a meaning
there, if the others leave that part as it is. -/
theorem Path.filterMap {τ β : Type} {takes' : τ → β → τ → Prop} {part : σ → τ}
    {meaning : α → Option β} {s last : σ} {as : List α} (path : Path takes s as last)
    (follows : ∀ s a next b, a ∈ as → takes s a next → meaning a = some b →
      takes' (part s) b (part next))
    (leaves : ∀ s a next, a ∈ as → takes s a next → meaning a = none → part next = part s) :
    Path takes' (part s) (as.filterMap meaning) (part last) := by
  induction path with
  | nil => exact .nil _
  | @cons s next last a as first rest ih =>
    have hrest := ih (fun s a next b ha => follows s a next b (List.mem_cons_of_mem _ ha))
      (fun s a next ha => leaves s a next (List.mem_cons_of_mem _ ha))
    cases ha : meaning a with
    | none =>
      rw [List.filterMap_cons_none ha, ← leaves s a next List.mem_cons_self first ha]
      exact hrest
    | some b =>
      rw [List.filterMap_cons_some ha]
      exact .cons (follows s a next b List.mem_cons_self first ha) hrest

/-- What a run leaves behind, one of its steps has left. -/
theorem mem_run {β : Type} {step : σ → α → σ × List β} {b : β} {s : σ} {as : List α}
    (h : b ∈ (run step s as).2) : ∃ s' a, a ∈ as ∧ b ∈ (step s' a).2 := by
  induction as generalizing s with
  | nil => exact absurd h List.not_mem_nil
  | cons a as ih =>
    rcases List.mem_append.mp h with h | h
    · exact ⟨s, a, List.mem_cons_self, h⟩
    · obtain ⟨s', a', ha, hb⟩ := ih h
      exact ⟨s', a', List.mem_cons_of_mem a ha, hb⟩

/-- A run is a path, if every step of it is a step of the relation. -/
theorem path_run {β : Type} {step : σ → α → σ × List β} (h : ∀ s a, takes s a (step s a).1)
    (s : σ) (as : List α) : Path takes s as (run step s as).1 := by
  induction as generalizing s with
  | nil => exact .nil s
  | cons a as ih => exact .cons (h s a) (ih (step s a).1)

end Steps

end PodDirectory
