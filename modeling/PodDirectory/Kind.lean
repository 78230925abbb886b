/-!
# The kinds of watched objects

Three kinds of objects are watched: pods, nodes and endpoint slices. A set of kinds
is three flags, so that two sets with the same members are the same value. A table over the
kinds is a function, whose values may be of another type for each kind.
-/

namespace PodDirectory

/-- A kind of object that is listed and watched. -/
inductive Kind where
  | pod
  | node
  | endpointSlice
deriving DecidableEq, Repr, Inhabited

namespace Kind

/-- The word by which a kind is named in messages and requests. -/
def text : Kind → String
  | pod => "pod"
  | node => "node"
  | endpointSlice => "endpointslice"

/-- Every kind, in the order in which results list them. -/
def all : List Kind := [pod, node, endpointSlice]

/-- The kind that a word names, if it names one. -/
def ofText? (word : String) : Option Kind := all.find? (·.text == word)

theorem mem_all (k : Kind) : k ∈ all := by cases k <;> decide

theorem ofText?_text (k : Kind) : ofText? k.text = some k := by cases k <;> decide

/-! ## Tables over the kinds -/

section Update

variable {α : Kind → Type}

/-- A table with another entry for one kind. -/
def update (table : (k : Kind) → α k) (k : Kind) (entry : α k) : (j : Kind) → α j :=
  fun j => if h : k = j then h ▸ entry else table j

@[simp] theorem update_self (table : (k : Kind) → α k) (k : Kind) (entry : α k) :
    update table k entry k = entry := by
  simp [update]

theorem update_of_ne (table : (k : Kind) → α k) {k j : Kind} (entry : α k) (h : k ≠ j) :
    update table k entry j = table j := by
  simp [update, h]

end Update

end Kind

/-! ## Sets of kinds -/

/-- A set of kinds, one flag for each. -/
@[ext]
structure KindSet where
  pod : Bool := false
  node : Bool := false
  endpointSlice : Bool := false
deriving DecidableEq, Repr, Inhabited

namespace KindSet

/-- The set without members. -/
def empty : KindSet := {}

/-- Whether a kind is a member. -/
def contains (s : KindSet) : Kind → Bool
  | .pod => s.pod
  | .node => s.node
  | .endpointSlice => s.endpointSlice

/-- The set with one kind added. -/
def insert (s : KindSet) : Kind → KindSet
  | .pod => { s with pod := true }
  | .node => { s with node := true }
  | .endpointSlice => { s with endpointSlice := true }

/-- The set of the kinds in a list. -/
def ofList (ks : List Kind) : KindSet := ks.foldl insert empty

/-- Whether every member of `s` is a member of `t`. -/
def isSubset (s t : KindSet) : Bool := Kind.all.all fun k => !s.contains k || t.contains k

@[simp] theorem contains_empty (k : Kind) : empty.contains k = false := by cases k <;> rfl

@[simp] theorem contains_insert (s : KindSet) (k j : Kind) :
    (s.insert k).contains j = (decide (j = k) || s.contains j) := by
  cases k <;> cases j <;> rfl

theorem ext_contains {s t : KindSet} (h : ∀ k, s.contains k = t.contains k) : s = t :=
  KindSet.ext (h .pod) (h .node) (h .endpointSlice)

theorem isSubset_iff {s t : KindSet} :
    s.isSubset t = true ↔ ∀ k, s.contains k = true → t.contains k = true := by
  constructor
  · intro h k hk
    have := List.all_eq_true.1 h k (Kind.mem_all k)
    simpa [hk] using this
  · intro h
    refine List.all_eq_true.2 fun k _ => ?_
    cases hk : s.contains k with
    | false => rfl
    | true => simp [h k hk]

theorem contains_ofList (ks : List Kind) (k : Kind) :
    (ofList ks).contains k = true ↔ k ∈ ks := by
  have grow : ∀ (ks : List Kind) (s : KindSet),
      (ks.foldl insert s).contains k = true ↔ s.contains k = true ∨ k ∈ ks := by
    intro ks
    induction ks with
    | nil => simp
    | cons j ks ih =>
      intro s
      rw [List.foldl_cons, ih, contains_insert, List.mem_cons]
      simp only [Bool.or_eq_true, decide_eq_true_eq]
      exact ⟨fun h => by grind, fun h => by grind⟩
  simpa [ofList] using grow ks empty

end KindSet

end PodDirectory
