import PodDirectory.Log.Event
import Std.Data.ExtTreeMap

/-!
# Who has which address

Under an address stands the pod that was given the address last. A pod can be given an
address while another pod still has it; the address is the new pod's then. A pod releases
an address only if it has it: if the address is another pod's by now, releasing has no
effect. The empty address stands for having none, and nobody is ever given it.

`getElem?_assign` and `getElem?_release` say who has an address afterwards.
-/

namespace PodDirectory

open Std (ExtTreeMap)

/-- The pods by their addresses. -/
abbrev AddressTable := ExtTreeMap String PodRecord

namespace AddressTable

/-- Whether a pod has an address. -/
def isHeldBy (t : AddressTable) (address : String) (key : PodKey) : Bool :=
  t[address]?.any (·.key = key)

/-- Gives a pod the address of its record, if there is one. -/
def assign (t : AddressTable) (r : PodRecord) : AddressTable :=
  if r.address = "" then t else t.insert r.address r

/-- Takes an address from a pod, if the pod has it. -/
def release (t : AddressTable) (key : PodKey) (address : String) : AddressTable :=
  if address = "" then t
  else if t.isHeldBy address key then t.erase address
  else t

/-- What is logged when a pod is given its address: that another pod still has it. -/
def takeover (t : AddressTable) (r : PodRecord) : List LogEvent :=
  if r.address = "" then [] else
    match t[r.address]? with
    | some holder =>
      if holder.key = r.key then [] else [.addressTakenOver r.address holder.key r.key]
    | none => []

/-- The pod that was given its address last has it, and everyone else what they had. -/
theorem getElem?_assign (t : AddressTable) (r : PodRecord) (a : String) :
    (t.assign r)[a]? = if r.address ≠ "" ∧ a = r.address then some r else t[a]? := by
  unfold assign
  split
  · next h => simp [h]
  · next h =>
    rw [ExtTreeMap.getElem?_insert]
    simp only [Std.LawfulEqCmp.compare_eq_iff_eq, eq_comm (a := a), ne_eq, h, not_false_eq_true,
      true_and]

/-- An address that is released by the pod that has it is free, and all other addresses
stay as they are. -/
theorem getElem?_release (t : AddressTable) (key : PodKey) (address a : String) :
    (t.release key address)[a]?
      = if address ≠ "" ∧ t.isHeldBy address key = true ∧ a = address then none else t[a]? := by
  unfold release
  split
  · next h => simp [h]
  · next h =>
    split
    · next held =>
      rw [ExtTreeMap.getElem?_erase]
      simp only [Std.LawfulEqCmp.compare_eq_iff_eq, eq_comm (a := a), ne_eq, h, held,
        not_false_eq_true, true_and]
    · next held => simp [held]

end AddressTable

end PodDirectory
