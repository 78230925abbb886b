import PodDirectory.Tracker
import PodDirectory.Proofs.PodTables

/-!
# What a directory is told of pods

Of all that a directory is told, few things concern pods: a pod was added or updated, which
comes to the same, or it was deleted. `Notice.podCall?` picks them out. The rest of the
notices, the marks and the waits leave the pods as they are.

So the pods of a directory can be followed without the rest of it. `Directory.podsOnly`
keeps what a directory knows of pods, and `podsOnly_applyAll` and `podsOnly_performAll` say
that it changes by the calls alone. The answers of a directory about pods are those of its
pods (`findByName?_podsOnly`, `findByAddress?_podsOnly`).
-/

namespace PodDirectory

/-- What a directory is told of a pod. -/
inductive PodCall where
  /-- This is the last record of its pod. -/
  | upsert (record : PodRecord)
  /-- The pod of this record is gone. -/
  | delete (record : PodRecord)
deriving DecidableEq

namespace PodCall

/-- The record that comes with a call. -/
def record : PodCall → PodRecord
  | upsert r => r
  | delete r => r

/-- What stands under the name of a pod after a call about it. -/
def stored? : PodCall → Option PodRecord
  | upsert r => some r
  | delete _ => none

/-- Whether a call is about the pod of a name. -/
def IsNamed (name : String) (c : PodCall) : Prop := c.record.key.text = name

/-- Whether a call gives a pod an address. -/
def Gives (a : String) : PodCall → Prop
  | upsert r => r.address = a
  | delete _ => False

instance (name : String) (c : PodCall) : Decidable (c.IsNamed name) :=
  inferInstanceAs (Decidable (_ = _))

instance (a : String) : (c : PodCall) → Decidable (c.Gives a)
  | upsert r => inferInstanceAs (Decidable (r.address = a))
  | delete _ => inferInstanceAs (Decidable False)

theorem stored?_eq_some {c : PodCall} {r : PodRecord} : c.stored? = some r ↔ upsert r = c := by
  cases c <;> simp [stored?, eq_comm]

end PodCall

/-- **What a notice says of a pod**, if it says anything. An update that would change the
kind of an object is dropped, and says nothing. -/
def Notice.podCall? : Notice → Option PodCall
  | .added (.pod r) _ => some (.upsert r)
  | .updated (.pod _) (.pod r) => some (.upsert r)
  | .deleted (.pod r) => some (.delete r)
  | _ => none

/-- What is said of a pod by the notice of an effect, if it has one. -/
def Effect.podCall? : Effect → Option PodCall
  | .notify _ notice => notice.podCall?
  | _ => none

namespace Directory

/-- Does what a call asks for. -/
def call (d : Directory) : PodCall → Directory
  | .upsert r => d.upsert r
  | .delete r => d.remove r

/-- Does what calls ask for, one after the other. -/
def callAll (d : Directory) (calls : List PodCall) : Directory := calls.foldl call d

@[simp] theorem callAll_nil (d : Directory) : d.callAll [] = d := rfl

@[simp] theorem callAll_cons (d : Directory) (c : PodCall) (calls : List PodCall) :
    d.callAll (c :: calls) = (d.call c).callAll calls := rfl

theorem callAll_append (d : Directory) (first second : List PodCall) :
    d.callAll (first ++ second) = (d.callAll first).callAll second :=
  List.foldl_append

/-- Under the name of a call stands what the call says. -/
theorem findByName?_call (d : Directory) (c : PodCall) (name : String) :
    (d.call c).findByName? name
      = if name = c.record.key.text then c.stored? else d.findByName? name := by
  cases c with
  | upsert r => exact d.findByName?_upsert r name
  | delete r => exact d.findByName?_remove r name

/-- A call that gives its pod an address that is not empty makes it the holder. -/
theorem Consistent.findByAddress?_call_of_gives {d : Directory} (hd : d.Consistent)
    {c : PodCall} (hc : IsDotless c.record.key.ns) {a : String} (ha : a ≠ "")
    (hg : c.Gives a) : (d.call c).findByAddress? a = c.stored? := by
  cases c with
  | upsert r => exact (hd.findByAddress?_upsert hc a).trans (if_pos ⟨ha, hg⟩)
  | delete r => exact hg.elim

/-- A call that does not give an address takes it away from its pod. -/
theorem Consistent.findByAddress?_call_of_not {d : Directory} (hd : d.Consistent)
    {c : PodCall} (hc : IsDotless c.record.key.ns) {a : String} (hg : ¬ (a ≠ "" ∧ c.Gives a)) :
    (d.call c).findByAddress? a = (d.findByAddress? a).filter (·.key ≠ c.record.key) := by
  cases c with
  | upsert r => exact (hd.findByAddress?_upsert hc a).trans (if_neg hg)
  | delete r => exact hd.findByAddress?_remove hc a

/-- Calls keep each table in order, whatever the pods are called. -/
theorem Indexed.call {d : Directory} (hd : d.Indexed) (c : PodCall) : (d.call c).Indexed := by
  cases c with
  | upsert r => exact hd.upsert r
  | delete r => exact hd.remove r

theorem Indexed.callAll {d : Directory} (hd : d.Indexed) (calls : List PodCall) :
    (d.callAll calls).Indexed := by
  induction calls generalizing d with
  | nil => exact hd
  | cons c calls ih => exact ih (hd.call c)

/-- Calls with namespaces without dots keep a directory consistent. -/
theorem Consistent.call {d : Directory} (hd : d.Consistent) {c : PodCall}
    (hc : IsDotless c.record.key.ns) : (d.call c).Consistent := by
  cases c with
  | upsert r => exact hd.upsert hc
  | delete r => exact hd.remove hc

theorem Consistent.callAll {d : Directory} (hd : d.Consistent) {calls : List PodCall}
    (hc : ∀ c ∈ calls, IsDotless c.record.key.ns) : (d.callAll calls).Consistent := by
  induction calls generalizing d with
  | nil => exact hd
  | cons c calls ih =>
    exact ih (hd.call (hc c List.mem_cons_self)) fun x hx => hc x (List.mem_cons_of_mem c hx)

/-! ## The pods of a directory -/

/-- **What a directory knows of pods**, as a directory that knows nothing else. -/
def podsOnly (d : Directory) : Directory where
  readiness := { required := .empty }
  byName := d.byName
  byAddress := d.byAddress
  pods := d.pods

@[simp] theorem findByName?_podsOnly (d : Directory) (name : String) :
    d.podsOnly.findByName? name = d.findByName? name := rfl

@[simp] theorem findByAddress?_podsOnly (d : Directory) (a : String) :
    d.podsOnly.findByAddress? a = d.findByAddress? a := rfl

/-- Only what a directory has of pods is in its tables. -/
theorem Indexed.of_podsOnly {d : Directory} (h : d.podsOnly.Indexed) : d.Indexed where
  text_eq := h.text_eq
  address_eq := h.address_eq
  pods_eq := h.pods_eq

theorem Consistent.of_podsOnly {d : Directory} (h : d.podsOnly.Consistent) : d.Consistent where
  toIndexed := h.toIndexed.of_podsOnly
  dotless := h.dotless
  named := h.named

@[simp] theorem podsOnly_countSlices (d : Directory) (slices addresses : Int64) :
    (d.countSlices slices addresses).podsOnly = d.podsOnly := rfl

/-- The pods change by what a notice says of a pod. -/
theorem podsOnly_apply (d : Directory) (n : Notice) :
    (d.apply n).1.podsOnly = d.podsOnly.callAll n.podCall?.toList := by
  cases n with
  | added what initial => cases what <;> rfl
  | updated old new => cases old <;> cases new <;> rfl
  | deleted what =>
    cases what with
    | pod r => rfl
    | node r => rfl
    | slice s => exact d.podsOnly_countSlices _ _

@[simp] theorem podsOnly_markListed (d : Directory) (k : Kind) :
    (d.markListed k).1.podsOnly = d.podsOnly := by
  unfold markListed
  cases d.readiness.mark k
  rfl

@[simp] theorem podsOnly_conclude (d : Directory) (result : WaitResult) :
    (d.conclude result).1.podsOnly = d.podsOnly := by
  cases result <;> rfl

/-- The pods change by what the notice of an effect says of a pod. -/
theorem podsOnly_perform (d : Directory) (e : Effect) :
    (d.perform e).1.podsOnly = d.podsOnly.callAll e.podCall?.toList := by
  cases e with
  | log event => rfl
  | notify ref notice => exact d.podsOnly_apply notice
  | markListed k => exact d.podsOnly_markListed k

/-- Where each step changes the pods by what it says of a pod, a run changes them by all
that its steps say. -/
theorem podsOnly_run {α β : Type} {step : Directory → α → Directory × List β}
    {podCall? : α → Option PodCall}
    (h : ∀ d a, (step d a).1.podsOnly = d.podsOnly.callAll (podCall? a).toList)
    (d : Directory) (as : List α) :
    (Steps.run step d as).1.podsOnly = d.podsOnly.callAll (as.filterMap podCall?) := by
  induction as generalizing d with
  | nil => rfl
  | cons a as ih =>
    rw [Steps.run_cons, ih, h, ← callAll_append]
    refine congrArg d.podsOnly.callAll ?_
    cases hc : podCall? a with
    | none => rw [List.filterMap_cons_none hc]; rfl
    | some c => rw [List.filterMap_cons_some hc]; rfl

/-- **After notices the pods are what the calls in them make of the pods before.** -/
theorem podsOnly_applyAll (d : Directory) (notices : List Notice) :
    (d.applyAll notices).1.podsOnly
      = d.podsOnly.callAll (notices.filterMap Notice.podCall?) :=
  podsOnly_run podsOnly_apply d notices

/-- **After effects the pods are what the calls in them make of the pods before.** -/
theorem podsOnly_performAll (d : Directory) (effects : List Effect) :
    (d.performAll effects).1.podsOnly
      = d.podsOnly.callAll (effects.filterMap Effect.podCall?) :=
  podsOnly_run podsOnly_perform d effects

end Directory

end PodDirectory
