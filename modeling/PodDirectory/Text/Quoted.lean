import PodDirectory.Text.Hidden

/-!
# Quoted text

The form in which a message shows a text whose ends and invisible characters matter.
The text stands between double quotes. A quote, a backslash, a line feed, a carriage
return, a tab and a NUL are written with a backslash; any other character that does not
show is written by its number in hexadecimal, in lower case and without leading zeros.
A single quote stands as it is.

What is quoted can be read back, whatever follows the closing quote (`readQuote_quote`), and none of
its characters is hidden (`isHidden_of_mem_quote`).
-/

namespace PodDirectory.Text

/-- A character written by its number. -/
def byNumber (c : Char) : List Char :=
  ['\\', 'u', '\x7b'] ++ Nat.toDigits 16 c.toNat ++ ['\x7d']

/-- A character as it stands between the quotes. -/
def quoteChar (c : Char) : List Char :=
  if c = '"' then ['\\', '"']
  else if c = '\\' then ['\\', '\\']
  else if c = '\n' then ['\\', 'n']
  else if c = '\r' then ['\\', 'r']
  else if c = '\t' then ['\\', 't']
  else if c = '\x00' then ['\\', '0']
  else if isHidden c then byNumber c
  else [c]

/-- The quoted form of a text. -/
def quote (text : String) : String :=
  String.ofList ('"' :: text.toList.flatMap quoteChar ++ ['"'])

/-- The quoted form of a list of texts, in brackets and with commas between them. -/
def quoteList (texts : List String) : String :=
  "[" ++ ", ".intercalate (texts.map quote) ++ "]"

@[simp] theorem toList_quote (text : String) :
    (quote text).toList = '"' :: text.toList.flatMap quoteChar ++ ['"'] :=
  String.toList_ofList

/-! ## Character by character -/

/-- The character that is meant by one behind a backslash. -/
def unescape? (c : Char) : Option Char :=
  [('"', '"'), ('\\', '\\'), ('n', '\n'), ('r', '\r'), ('t', '\t'), ('0', '\x00')].lookup c

/-- **How a character is written**: behind a backslash, by its number, or as it is. -/
theorem quoteChar_cases (c : Char) :
    (∃ d, quoteChar c = ['\\', d] ∧ unescape? d = some c ∧ isHidden d = false) ∨
      quoteChar c = byNumber c ∨
      quoteChar c = [c] ∧ isHidden c = false ∧ c ≠ '"' ∧ c ≠ '\\' := by
  unfold quoteChar
  split
  · next h => exact Or.inl ⟨'"', rfl, by rw [h]; rfl, rfl⟩
  split
  · next h => exact Or.inl ⟨'\\', rfl, by rw [h]; rfl, rfl⟩
  split
  · next h => exact Or.inl ⟨'n', rfl, by rw [h]; rfl, rfl⟩
  split
  · next h => exact Or.inl ⟨'r', rfl, by rw [h]; rfl, rfl⟩
  split
  · next h => exact Or.inl ⟨'t', rfl, by rw [h]; rfl, rfl⟩
  split
  · next h => exact Or.inl ⟨'0', rfl, by rw [h]; rfl, rfl⟩
  split
  · exact Or.inr (Or.inl rfl)
  · next hquote hbackslash _ _ _ _ hshown =>
    exact Or.inr (Or.inr ⟨rfl, Bool.eq_false_iff.mpr hshown, hquote, hbackslash⟩)

/-! ## What is seen -/

/-- The digits of a number are seen. -/
theorem isHidden_of_mem_toDigits {n : Nat} {c : Char} (h : c ∈ Nat.toDigits 16 n) :
    isHidden c = false := by
  have hdigit : ∀ d < 16, isHidden d.digitChar = false := by decide
  induction n using Nat.strongRecOn with
  | ind n ih =>
    rcases Nat.lt_or_ge n 16 with hn | hn
    · rw [Nat.toDigits_of_lt_base hn, List.mem_singleton] at h
      rw [h, hdigit n hn]
    · rw [Nat.toDigits_of_base_le (by decide) hn, List.mem_append, List.mem_singleton] at h
      rcases h with h | rfl
      · exact ih (n / 16) (by omega) h
      · exact hdigit _ (Nat.mod_lt n (by decide))

theorem isHidden_of_mem_quoteChar {c d : Char} (h : d ∈ quoteChar c) : isHidden d = false := by
  obtain ⟨e, hquoted, -, hshown⟩ | hquoted | ⟨hquoted, hshown, -, -⟩ := quoteChar_cases c
  · rw [hquoted, List.mem_cons, List.mem_singleton] at h
    obtain rfl | rfl := h
    · decide
    · exact hshown
  · rw [hquoted, byNumber, List.mem_append, List.mem_append, List.mem_singleton] at h
    obtain (h | h) | rfl := h
    · rw [List.mem_cons, List.mem_cons, List.mem_singleton] at h
      obtain rfl | rfl | rfl := h <;> rfl
    · exact isHidden_of_mem_toDigits h
    · rfl
  · rw [hquoted, List.mem_singleton] at h
    rwa [h]

/-- **A quoted text has no hidden characters.** -/
theorem isHidden_of_mem_quote {text : String} {c : Char} (h : c ∈ (quote text).toList) :
    isHidden c = false := by
  rw [toList_quote, List.cons_append, List.mem_cons, List.mem_append, List.mem_singleton,
    List.mem_flatMap] at h
  obtain rfl | ⟨d, -, hd⟩ | rfl := h
  · decide
  · exact isHidden_of_mem_quoteChar hd
  · decide

/-! ## Reading back -/

/-- Where someone is who reads a quoted text. -/
inductive Reading where
  /-- Between characters of the text. -/
  | between
  /-- Behind a backslash. -/
  | escaped
  /-- Behind the letter that says that a number follows. -/
  | numbered
  /-- Among the digits of a number, which have come to so much. -/
  | digits (n : Nat)

/-- The value of a digit. -/
def digitValue? (c : Char) : Option Nat :=
  (List.range 16).find? (·.digitChar = c)

/-- Reads the characters up to the closing quote, and leaves those behind it. -/
def readQuoted : Reading → List Char → Option (List Char × List Char)
  | _, [] => none
  | .between, c :: rest =>
    if c = '"' then some ([], rest)
    else if c = '\\' then readQuoted .escaped rest
    else (readQuoted .between rest).map (.map (c :: ·) id)
  | .escaped, c :: rest =>
    if c = 'u' then readQuoted .numbered rest
    else (unescape? c).bind fun d => (readQuoted .between rest).map (.map (d :: ·) id)
  | .numbered, c :: rest => if c = '\x7b' then readQuoted (.digits 0) rest else none
  | .digits n, c :: rest =>
    if c = '\x7d' then (readQuoted .between rest).map (.map (.ofNat n :: ·) id)
    else (digitValue? c).bind fun d => readQuoted (.digits (16 * n + d)) rest

/-- Reads a quoted text, and leaves the characters behind it. -/
def readQuote : List Char → Option (String × List Char)
  | [] => none
  | c :: rest =>
    if c = '"' then (readQuoted .between rest).map (.map String.ofList id) else none

theorem digitValue?_digitChar {d : Nat} (h : d < 16) : digitValue? d.digitChar = some d := by
  revert d
  decide

theorem digitChar_ne_brace {d : Nat} (h : d < 16) : d.digitChar ≠ '\x7d' := by
  revert d
  decide

/-- The digits of a number come to the number. -/
theorem readQuoted_toDigits (n : Nat) (rest : List Char) :
    readQuoted (.digits 0) (Nat.toDigits 16 n ++ rest) = readQuoted (.digits n) rest := by
  induction n using Nat.strongRecOn generalizing rest with
  | ind n ih =>
    have hdigit (m : Nat) {d : Nat} (hd : d < 16) : readQuoted (.digits m) (d.digitChar :: rest)
        = readQuoted (.digits (16 * m + d)) rest := by
      rw [readQuoted, if_neg (digitChar_ne_brace hd), digitValue?_digitChar hd, Option.bind_some]
    rcases Nat.lt_or_ge n 16 with hn | hn
    · rw [Nat.toDigits_of_lt_base hn, List.singleton_append, hdigit 0 hn, Nat.zero_add]
    · rw [Nat.toDigits_of_base_le (by decide) hn, List.append_assoc, ih (n / 16) (by omega),
        List.singleton_append, hdigit _ (Nat.mod_lt n (by decide)), Nat.div_add_mod]

/-- Each character is read back from its quoted form. -/
theorem readQuoted_quoteChar (c : Char) (rest : List Char) :
    readQuoted .between (quoteChar c ++ rest)
      = (readQuoted .between rest).map (.map (c :: ·) id) := by
  obtain ⟨d, hquoted, hd, -⟩ | hquoted | ⟨hquoted, -, hquote, hbackslash⟩ := quoteChar_cases c
  · have hu : d ≠ 'u' := by
      rintro rfl
      cases hd
    simp [hquoted, readQuoted, hu, hd]
  · have hopen : readQuoted .between (byNumber c ++ rest)
        = readQuoted (.digits 0) (Nat.toDigits 16 c.toNat ++ ('\x7d' :: rest)) := by
      simp [byNumber, readQuoted]
    rw [hquoted, hopen, readQuoted_toDigits, readQuoted, if_pos rfl, Char.ofNat_toNat]
  · rw [hquoted, List.singleton_append, readQuoted, if_neg hquote, if_neg hbackslash]

/-- So is a text, up to the closing quote. -/
theorem readQuoted_flatMap (text rest : List Char) :
    readQuoted .between (text.flatMap quoteChar ++ '"' :: rest) = some (text, rest) := by
  induction text with
  | nil => rfl
  | cons c text ih =>
    rw [List.flatMap_cons, List.append_assoc, readQuoted_quoteChar, ih]
    rfl

/-- **A quoted text stands between double quotes and can be read back**, whatever follows it. -/
theorem readQuote_quote (text : String) (rest : List Char) :
    readQuote ((quote text).toList ++ rest) = some (text, rest) := by
  have hquoted : (quote text).toList ++ rest
      = '"' :: (text.toList.flatMap quoteChar ++ '"' :: rest) := by
    simp
  rw [hquoted, readQuote, if_pos rfl, readQuoted_flatMap]
  simp

/-- **Different texts have different quoted forms.** -/
theorem quote_inj {text text' : String} : quote text = quote text' ↔ text = text' := by
  refine ⟨fun h => ?_, congrArg quote⟩
  have hread := readQuote_quote text []
  rw [h, readQuote_quote] at hread
  exact (congrArg Prod.fst (Option.some.inj hread)).symm

end PodDirectory.Text
