import Mathlib.Data.List.TakeWhile
import Mathlib.Data.Nat.Digits.Defs
import PodDirectory.Text.Numeral

/-!
# Which texts are numerals

A numeral is read by a loop that looks at one character after the other and gives up at the
first one that is wrong. What it accepts can be said without the loop: digits with or without a
plus sign before them, and the number that they denote fits in one word (`IsNumeral`).

What the loop gives up for can be said without it too. Digits only make a number larger, so what
counts is the number that the digits at the beginning denote, as far as they go: if it is too
large the loop never gets behind them, and if it fits then a character behind them is to blame
(`readDigits_decimal`). So every text is a numeral with one value, or there is one reason why it
is none (`readNumeral_eq_ok_iff`, `readNumeral_eq_error_iff`).
-/

namespace PodDirectory.Text

/-! ## The number that digits denote -/

/-- **The number that decimal digits denote**; the last of them is worth least. -/
def decimal (digits : List Char) : Nat := Nat.ofDigits 10 (digits.reverse.map digitValue)

@[simp] theorem decimal_nil : decimal [] = 0 := rfl

/-- One more digit at the end makes all the others worth ten times as much. -/
theorem decimal_concat (digits : List Char) (c : Char) :
    decimal (digits ++ [c]) = 10 * decimal digits + digitValue c := by
  unfold decimal
  rw [List.reverse_append, List.reverse_singleton, List.singleton_append, List.map_cons,
    Nat.ofDigits_cons, Nat.add_comm]

/-- More digits at the end never denote less. -/
theorem decimal_le_append (first second : List Char) :
    decimal first ≤ decimal (first ++ second) := by
  induction second generalizing first with
  | nil => rw [List.append_nil]
  | cons c rest ih =>
    have hone : decimal first ≤ decimal (first ++ [c]) := by
      rw [decimal_concat]
      omega
    rw [List.append_cons]
    exact hone.trans (ih _)

/-! ## What the loop comes to -/

/-- **Reading on, with some digits read already.** The digits that follow decide whether the
number is too large, and what comes behind them whether the text is a number at all. -/
theorem readDigits_decimal (read rest : List Char) (hread : decimal read < UInt64.size) :
    readDigits (decimal read) rest
      = if UInt64.size ≤ decimal (read ++ rest.takeWhile Char.isDigit) then .error .tooLarge
        else if rest.all Char.isDigit then .ok (decimal (read ++ rest))
        else .error .invalidDigit := by
  induction rest generalizing read with
  | nil =>
    rw [List.takeWhile_nil, List.append_nil, if_neg (Nat.not_le.mpr hread)]
    rfl
  | cons c rest ih =>
    unfold readDigits
    by_cases hc : c.isDigit = true
    · rw [if_pos hc, ← decimal_concat, List.takeWhile_cons_of_pos hc]
      by_cases hfits : decimal (read ++ [c]) < UInt64.size
      · rw [if_pos hfits, ih _ hfits, List.append_cons read c (rest.takeWhile Char.isDigit),
          List.append_cons read c rest, List.all_cons, hc, Bool.true_and]
      · have hlarge := decimal_le_append (read ++ [c]) (rest.takeWhile Char.isDigit)
        rw [if_neg hfits, List.append_cons read c (rest.takeWhile Char.isDigit),
          if_pos ((Nat.le_of_not_lt hfits).trans hlarge)]
    · -- a character that is no digit is looked at only if the number fits so far
      rw [if_neg hc, List.takeWhile_cons_of_neg hc, List.append_nil,
        if_neg (Nat.not_le.mpr hread), List.all_cons, if_neg (by simp [hc])]

/-- **What reading comes to**, for a text that is not empty. -/
theorem readNumeral_eq {text : List Char} (h : text ≠ []) :
    readNumeral text
      = if UInt64.size ≤ decimal ((dropPlus text).takeWhile Char.isDigit) then .error .tooLarge
        else if (dropPlus text).all Char.isDigit then .ok (decimal (dropPlus text))
        else .error .invalidDigit := by
  obtain ⟨c, rest, rfl⟩ := List.exists_cons_of_ne_nil h
  exact readDigits_decimal [] (dropPlus (c :: rest)) (by decide)

/-! ## Numerals -/

/-- **A numeral and its value**: one digit or more, as many leading zeros among them as one
likes, and one plus sign at most. The value fits in one word. -/
inductive IsNumeral : List Char → Nat → Prop where
  | plain {digits : List Char} (nonempty : digits ≠ []) (isDigit : ∀ c ∈ digits, c.isDigit)
    (fits : decimal digits ≤ 2 ^ 64 - 1) : IsNumeral digits (decimal digits)
  | signed {digits : List Char} (nonempty : digits ≠ []) (isDigit : ∀ c ∈ digits, c.isDigit)
    (fits : decimal digits ≤ 2 ^ 64 - 1) : IsNumeral ('+' :: digits) (decimal digits)

/-- **A text and what it is without its plus sign.** A sign that is the whole text stays. -/
inductive Unsigned : List Char → List Char → Prop where
  | signed {rest : List Char} (nonempty : rest ≠ []) : Unsigned ('+' :: rest) rest
  | plain {text : List Char} (h : ∀ rest, text = '+' :: rest → rest = []) : Unsigned text text

/-- **The reasons why a text is no numeral.** A number that is too large is blamed before
anything that comes behind its digits. -/
def Blames (text : List Char) : NumeralError → Prop
  | .empty => text = []
  | .tooLarge => ∃ body, Unsigned text body ∧ 2 ^ 64 - 1 < decimal (body.takeWhile Char.isDigit)
  | .invalidDigit =>
    text ≠ [] ∧
      (∃ body, Unsigned text body ∧ decimal (body.takeWhile Char.isDigit) ≤ 2 ^ 64 - 1) ∧
      ∀ value, ¬ IsNumeral text value

theorem unsigned_iff {text body : List Char} : Unsigned text body ↔ dropPlus text = body := by
  constructor
  · rintro (hne | h)
    · obtain ⟨c, rest, rfl⟩ := List.exists_cons_of_ne_nil hne
      rfl
    · unfold dropPlus
      split
      · cases h _ rfl
      · rfl
  · rintro rfl
    unfold dropPlus
    split
    · exact .signed (List.cons_ne_nil _ _)
    · next h =>
      refine .plain fun rest htext => ?_
      cases rest with
      | nil => rfl
      | cons c rest => exact absurd htext (h c rest)

/-- A numeral is a text that has nothing but digits behind its sign, with a value that fits. -/
theorem isNumeral_iff {text : List Char} {value : Nat} :
    IsNumeral text value ↔ text ≠ [] ∧ (dropPlus text).all Char.isDigit = true ∧
      decimal (dropPlus text) = value ∧ value < UInt64.size := by
  have hsize : UInt64.size = 2 ^ 64 := rfl
  constructor
  · rintro (⟨hne, hdigits, hfits⟩ | ⟨hne, hdigits, hfits⟩)
    · have hbody : dropPlus text = text := by
        refine unsigned_iff.mp (.plain fun rest htext => ?_)
        exact absurd (hdigits '+' (by simp [htext])) (by decide)
      rw [hbody]
      exact ⟨hne, List.all_eq_true.mpr hdigits, rfl, by omega⟩
    · rw [unsigned_iff.mp (.signed hne)]
      exact ⟨List.cons_ne_nil _ _, List.all_eq_true.mpr hdigits, rfl, by omega⟩
  · obtain ⟨body, hbody⟩ : ∃ body, dropPlus text = body := ⟨_, rfl⟩
    rw [hbody]
    rintro ⟨hne, hdigits, rfl, hfits⟩
    have hfits : decimal body ≤ 2 ^ 64 - 1 := by omega
    rw [List.all_eq_true] at hdigits
    cases unsigned_iff.mpr hbody with
    | signed hrest => exact .signed hrest hdigits hfits
    | plain => exact .plain hne hdigits hfits

/-- **Reading accepts exactly the numerals**, and gives the value. -/
theorem readNumeral_eq_ok_iff {text : List Char} {value : Nat} :
    readNumeral text = .ok value ↔ IsNumeral text value := by
  rw [isNumeral_iff]
  by_cases hne : text = []
  · subst hne
    simp [readNumeral]
  rw [readNumeral_eq hne]
  -- if there is nothing but digits, the digits at the beginning are all there is
  have hall : (dropPlus text).all Char.isDigit = true →
      (dropPlus text).takeWhile Char.isDigit = dropPlus text := fun h =>
    List.takeWhile_eq_self_iff.mpr (List.all_eq_true.mp h)
  constructor
  · intro h
    split at h
    · cases h
    next hfits =>
    split at h
    · next hdigits =>
      rw [hall hdigits] at hfits
      cases h
      exact ⟨hne, hdigits, rfl, Nat.lt_of_not_le hfits⟩
    · cases h
  · rintro ⟨-, hdigits, rfl, hfits⟩
    rw [hall hdigits, if_neg (Nat.not_le.mpr hfits), if_pos hdigits]

/-- The largest numeral, with a sign and with zeros before it. -/
example : readNumeral "+0018446744073709551615".toList = .ok (2 ^ 64 - 1) := by decide +kernel

theorem blames_empty_iff {text : List Char} : Blames text .empty ↔ text = [] := Iff.rfl

theorem blames_tooLarge_iff {text : List Char} :
    Blames text .tooLarge
      ↔ UInt64.size ≤ decimal ((dropPlus text).takeWhile Char.isDigit) := by
  have hsize : UInt64.size = 2 ^ 64 := rfl
  simp only [Blames, unsigned_iff, exists_eq_left']
  omega

/-- What is blamed on a character is neither empty nor too large nor a numeral. -/
theorem blames_invalidDigit_iff {text : List Char} :
    Blames text .invalidDigit
      ↔ text ≠ [] ∧ ¬ Blames text .tooLarge ∧ ∀ value, ¬ IsNumeral text value := by
  rw [blames_tooLarge_iff]
  have hsize : UInt64.size = 2 ^ 64 := rfl
  simp only [Blames, unsigned_iff, exists_eq_left']
  refine and_congr_right fun _ => and_congr_left fun _ => ?_
  omega

/-- **Reading refuses a text for the reason that there is**, and there is one at most. -/
theorem readNumeral_eq_error_iff {text : List Char} {cause : NumeralError} :
    readNumeral text = .error cause ↔ Blames text cause := by
  have hnumeral : ∀ value, IsNumeral text value ↔ readNumeral text = .ok value := fun value =>
    readNumeral_eq_ok_iff.symm
  have hreasons : (Blames text .tooLarge ↔ _) ∧ (Blames text .invalidDigit ↔ _) :=
    ⟨blames_tooLarge_iff, blames_invalidDigit_iff⟩
  by_cases hne : text = []
  · subst hne
    have hread : readNumeral [] = .error .empty := rfl
    cases cause <;> simp [hread, hreasons, blames_empty_iff, dropPlus]
  by_cases hlarge : UInt64.size ≤ decimal ((dropPlus text).takeWhile Char.isDigit)
  · have hread : readNumeral text = .error .tooLarge := by
      rw [readNumeral_eq hne, if_pos hlarge]
    cases cause <;> simp [hread, hreasons, blames_empty_iff, hne, hlarge]
  by_cases hdigits : (dropPlus text).all Char.isDigit = true
  · have hread : readNumeral text = .ok (decimal (dropPlus text)) := by
      rw [readNumeral_eq hne, if_neg hlarge, if_pos hdigits]
    cases cause <;> simp [hread, hreasons, blames_empty_iff, hne, hlarge, hnumeral]
  · have hread : readNumeral text = .error .invalidDigit := by
      rw [readNumeral_eq hne, if_neg hlarge, if_neg hdigits]
    cases cause <;> simp [hread, hreasons, blames_empty_iff, hne, hlarge, hnumeral]

/-- One more is too large, and nobody gets to see what stands behind it. -/
example : readNumeral "18446744073709551616 s".toList = .error .tooLarge := by decide +kernel

end PodDirectory.Text
