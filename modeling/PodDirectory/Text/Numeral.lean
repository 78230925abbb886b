/-!
# Decimal numerals of one machine word

A numeral is one or more decimal digits, with at most one plus sign before them, and its
value has to fit in 64 bits. It is read from left to right, and the first thing that is
wrong decides the error: a character that is no digit, or a digit that takes the value
beyond the word.
-/

namespace PodDirectory.Text

/-- Why a text is no numeral of one word. -/
inductive NumeralError where
  | empty
  | invalidDigit
  | tooLarge
deriving DecidableEq, Repr

/-- The wording of a numeral error. -/
def NumeralError.message : NumeralError → String
  | empty => "cannot parse integer from empty string"
  | invalidDigit => "invalid digit found in string"
  | tooLarge => "number too large to fit in target type"

/-- The value of a decimal digit. -/
def digitValue (c : Char) : Nat := c.toNat - 48

/-- Reads digits onto a value read so far. -/
def readDigits (value : Nat) : List Char → Except NumeralError Nat
  | [] => .ok value
  | c :: rest =>
    if c.isDigit then
      let longer := 10 * value + digitValue c
      if longer < UInt64.size then readDigits longer rest else .error .tooLarge
    else .error .invalidDigit

/-- The numeral without its plus sign. A sign that is the whole text is kept, since there
is no numeral behind it. -/
def dropPlus : List Char → List Char
  | '+' :: c :: rest => c :: rest
  | text => text

/-- Reads a numeral. -/
def readNumeral : List Char → Except NumeralError Nat
  | [] => .error .empty
  | c :: rest => readDigits 0 (dropPlus (c :: rest))

end PodDirectory.Text
