import Std.Data.ExtTreeMap

/-!
# Structured data and how it is decoded

Objects arrive as JSON values. A decoder takes a value to what it stands for, or to
nothing if the value has the wrong shape. A member of an object that is `null` is the same
as one that is missing, and members that nobody asks for may hold anything.
-/

namespace PodDirectory

open Std (ExtTreeMap)

/-- A JSON value. A number written without a decimal point is an integer of any size. -/
inductive Json where
  | null
  | bool (b : Bool)
  | int (n : Int)
  | decimal (mantissa : Int) (places : Nat)
  | str (s : String)
  | arr (items : List Json)
  | obj (members : List (String × Json))
deriving Repr, Inhabited

namespace Json

/-! ## Leaves -/

/-- A text. -/
def string? : Json → Option String
  | str s => some s
  | _ => none

/-- A truth value. -/
def bool? : Json → Option Bool
  | bool b => some b
  | _ => none

/-- An integer of 32 bits with a sign. -/
def int32? : Json → Option Int32
  | int n =>
    if Int32.minValue.toInt ≤ n ∧ n ≤ Int32.maxValue.toInt then some (Int32.ofInt n) else none
  | _ => none

/-- An integer of 16 bits without a sign. -/
def uint16? : Json → Option UInt16
  | int n => if 0 ≤ n ∧ n < UInt16.size then some (UInt16.ofNat n.toNat) else none
  | _ => none

/-! ## Lists and objects -/

/-- A list all of whose items can be decoded. -/
def list? {α : Type} (item : Json → Option α) : Json → Option (List α)
  | arr items => items.mapM item
  | _ => none

/-- The members of an object. -/
def members? : Json → Option (List (String × Json))
  | obj members => some members
  | _ => none

/-- A table from texts to texts. -/
def table? : Json → Option (ExtTreeMap String String)
  | obj members =>
    members.foldlM (fun table m => m.2.string?.map fun text => table.insert m.1 text) ∅
  | _ => none

/-! ## Members -/

/-- The value of a member that is there and not `null`. -/
def member? (members : List (String × Json)) (name : String) : Option Json :=
  match members.lookup name with
  | some null => none
  | found => found

/-- Decodes a member that may be missing. -/
def optional {α : Type} (decode : Json → Option α) (members : List (String × Json))
    (name : String) : Option (Option α) :=
  match member? members name with
  | none => some none
  | some value => (decode value).map some

/-- Decodes a member that has a fallback when it is missing. -/
def orElse {α : Type} (fallback : α) (decode : Json → Option α)
    (members : List (String × Json)) (name : String) : Option α :=
  (optional decode members name).map (·.getD fallback)

/-- Decodes a member that has to be there. -/
def required {α : Type} (decode : Json → Option α) (members : List (String × Json))
    (name : String) : Option α :=
  (members.lookup name).bind decode

/-- Whether a member is missing or is exactly the given text. Here `null` is no way to
leave the member out. -/
def agrees (members : List (String × Json)) (name expected : String) : Bool :=
  match members.lookup name with
  | none => true
  | some (str text) => text == expected
  | some _ => false

end Json

end PodDirectory
