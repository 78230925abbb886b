import PodDirectory.Observation

/-!
# When the name of a pod tells which pod it is

A pod is found by one text, its own name and its namespace with a dot between them. The
name may have dots itself, so that the text alone does not say where the namespace begins:
`a.b.c` is the pod `a.b` of the namespace `c` and the pod `a` of the namespace `b.c`. Two keys
have one text exactly if one of them cuts it at a later dot than the other
(`PodKey.text_eq_iff`).

A cluster gives no namespace a dot. Then the last dot of the text is the one in the middle,
and the text tells the key (`PodKey.text_inj`).
-/

namespace PodDirectory

/-- Whether a namespace is without a dot. -/
def IsDotless (ns : String) : Prop := '.' ∉ ns.toList

instance (ns : String) : Decidable (IsDotless ns) := inferInstanceAs (Decidable (_ ∉ _))

/-- **Two cuts of a list of characters, each at a dot**, are the same, or what lies between the
two dots is behind the first in one cut and before the second in the other. -/
theorem append_dot_eq_append_dot_iff {a b c d : List Char} :
    a ++ '.' :: b = c ++ '.' :: d ↔
      (a = c ∧ b = d) ∨ (∃ w, a = c ++ '.' :: w ∧ d = w ++ '.' :: b) ∨
        ∃ w, c = a ++ '.' :: w ∧ b = w ++ '.' :: d := by
  constructor
  · intro h
    -- if one left part is longer than the other, the dot behind the other is in it
    rcases List.append_eq_append_iff.mp h with ⟨w, hc, hw⟩ | ⟨w, ha, hw⟩
    · cases w with
      | nil => exact Or.inl ⟨by simpa using hc.symm, by simpa using hw⟩
      | cons x w =>
        obtain ⟨rfl, hb⟩ := List.cons.inj hw
        exact Or.inr (Or.inr ⟨w, hc, hb⟩)
    · cases w with
      | nil => exact Or.inl ⟨by simpa using ha, by simpa using hw.symm⟩
      | cons x w =>
        obtain ⟨rfl, hd⟩ := List.cons.inj hw
        exact Or.inr (Or.inl ⟨w, ha, hd⟩)
  · rintro (⟨rfl, rfl⟩ | ⟨w, rfl, rfl⟩ | ⟨w, rfl, rfl⟩) <;> simp

namespace PodKey

theorem toList_text (key : PodKey) :
    key.text.toList = key.name.toList ++ '.' :: key.ns.toList := by
  simp [text]

/-- **Whether a key cuts the text of another one at a later dot**: what lies between the two
dots is part of its name, and part of the namespace of the other. -/
def CutsLater (a b : PodKey) : Prop :=
  ∃ between : String, a.name = b.name ++ "." ++ between ∧ b.ns = between ++ "." ++ a.ns

theorem cutsLater_iff_toList {a b : PodKey} :
    a.CutsLater b ↔ ∃ w, a.name.toList = b.name.toList ++ '.' :: w ∧
      b.ns.toList = w ++ '.' :: a.ns.toList := by
  constructor
  · rintro ⟨between, hname, hns⟩
    exact ⟨between.toList, by simp [hname], by simp [hns]⟩
  · rintro ⟨w, hname, hns⟩
    exact ⟨String.ofList w, String.toList_inj.mp (by simp [hname]),
      String.toList_inj.mp (by simp [hns])⟩

/-- A key is not cut later if its namespace has no dot. -/
theorem CutsLater.not_isDotless {a b : PodKey} (h : a.CutsLater b) : ¬ IsDotless b.ns := by
  obtain ⟨w, -, hns⟩ := cutsLater_iff_toList.mp h
  simp [IsDotless, hns]

/-- **Two keys have one text exactly if they are the same, or one cuts it later.** -/
theorem text_eq_iff {a b : PodKey} :
    a.text = b.text ↔ a = b ∨ a.CutsLater b ∨ b.CutsLater a := by
  rw [← String.toList_inj, toList_text, toList_text, append_dot_eq_append_dot_iff,
    ← cutsLater_iff_toList, ← cutsLater_iff_toList, String.toList_inj, String.toList_inj,
    PodKey.ext_iff]

/-- **Among pods whose namespaces have no dot the text tells the key.** -/
theorem text_inj {a b : PodKey} (ha : IsDotless a.ns) (hb : IsDotless b.ns) :
    a.text = b.text ↔ a = b := by
  rw [text_eq_iff]
  constructor
  · rintro (h | h | h)
    · exact h
    · exact absurd hb h.not_isDotless
    · exact absurd ha h.not_isDotless
  · exact Or.inl

end PodKey

end PodDirectory
