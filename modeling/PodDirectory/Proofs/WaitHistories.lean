import Mathlib.Data.List.Induction
import PodDirectory.Readiness.Waiters
import PodDirectory.Proofs.Histories

/-!
# Which wait is under way, and whether it has been cancelled

Waits are started, looked at and given up in any order, under names that can be used again,
and on tokens that can be shared. What is under way at some time can be told from the turns
taken so far: `HangsOn` says that the last turn that settled a name started a wait on a
token. Tokens are never taken back, so that a wait is cancelled once its token was cancelled
at any time, before the wait was started or after.

What a look at a wait finds is a matter of the moment: it is told by what is ready then
(`poll_eq_ready`, `poll_eq_cancelled`, `poll_eq_pending`), and it is not told by earlier looks.
-/

namespace PodDirectory

open Std (ExtTreeMap ExtTreeSet)

/-! ## What a look finds -/

namespace Readiness

variable {r : Readiness} {cancelled : Bool}

/-- **What is ready is ready**, cancelled or not. -/
theorem poll_eq_ready : r.poll cancelled = .ready ↔ r.isReady = true := by
  unfold poll
  cases r.isReady <;> cases cancelled <;> simp

theorem poll_eq_cancelled :
    r.poll cancelled = .cancelled ↔ ¬ r.isReady = true ∧ cancelled = true := by
  unfold poll
  cases r.isReady <;> cases cancelled <;> simp

theorem poll_eq_pending :
    r.poll cancelled = .pending ↔ ¬ r.isReady = true ∧ ¬ cancelled = true := by
  unfold poll
  cases r.isReady <;> cases cancelled <;> simp

/-- What a look finds, where it is known when everything is ready and when the wait is
cancelled. -/
theorem found_iff_of_poll {found : Option WaitResult} (hf : found = some (r.poll cancelled))
    {everything gone : Prop} (hready : r.isReady = true ↔ everything)
    (hcancelled : cancelled = true ↔ gone) :
    (found = some .ready ↔ everything) ∧
      (found = some .cancelled ↔ ¬ everything ∧ gone) ∧
      (found = some .pending ↔ ¬ everything ∧ ¬ gone) := by
  subst hf
  simp only [Option.some.injEq, poll_eq_ready, poll_eq_cancelled, poll_eq_pending, hready,
    hcancelled, and_self]

end Readiness

/-! ## Turns -/

namespace WaitStep

/-- The token of the wait that a step starts, if it starts one. -/
def token? : WaitStep → Option String
  | .start _ token => some token
  | _ => none

/-- **Whether a step settles what is under way of a name**: it starts a wait of this name,
gives it up, or finds that it is over. -/
def Settles (name : String) (found : Option WaitResult) : WaitStep → Prop
  | .start name' _ => name' = name
  | .drop name' => name' = name
  | .poll name' => name' = name ∧ found.any WaitResult.isFinal = true
  | .once _ | .cancel _ => False

instance (name : String) (found : Option WaitResult) : (s : WaitStep) →
    Decidable (s.Settles name found)
  | .start name' _ | .drop name' => inferInstanceAs (Decidable (name' = name))
  | .poll name' =>
    inferInstanceAs (Decidable (name' = name ∧ found.any WaitResult.isFinal = true))
  | .once _ | .cancel _ => inferInstanceAs (Decidable False)

end WaitStep

/-- A step about waits that was taken, and what it found if it looked at one. -/
structure Turn where
  step : WaitStep
  found : Option WaitResult
deriving DecidableEq, Repr

namespace Turn

/-- Whether a turn leads from some waits to others. What a look finds may be different at
each turn. -/
def Leads (w : Waiters) (turn : Turn) (w' : Waiters) : Prop :=
  ∃ look, (w.step look turn.step).1 = w' ∧ (w.step look turn.step).2 = turn.found

/-- Whether a turn settles what is under way of a name. -/
abbrev Settles (name : String) (turn : Turn) : Prop := turn.step.Settles name turn.found

end Turn

/-- **Whether a wait of a name is under way on a token** after some turns: the last turn that
settled the name has started it. -/
def HangsOn (turns : List Turn) (name token : String) : Prop :=
  ∃ turn later, LastWhere (Turn.Settles name) turns turn later ∧ turn.step.token? = some token

namespace Waiters

/-! ## One step -/

/-- After a step that settles a name, the name has the token of the wait started, if one
was started; after any other step it has the token it had. -/
theorem getElem?_tokens_step (w : Waiters) (look : Bool → WaitResult) (s : WaitStep)
    (name : String) :
    (w.step look s).1.tokens[name]?
      = if s.Settles name (w.step look s).2 then s.token? else w.tokens[name]? := by
  cases s with
  | once cancelled => rfl
  | start name' token =>
    show (w.tokens.insert name' token)[name]? = _
    rw [ExtTreeMap.getElem?_insert]
    simp only [Std.LawfulEqCmp.compare_eq_iff_eq]
    rfl
  | poll name' =>
    cases h : w.cancelled? name' with
    | none => simp [step, h, WaitStep.Settles]
    | some cancelled =>
      -- a wait is forgotten when it is found to be over, and stays as it is otherwise
      by_cases hf : (look cancelled).isFinal = true
      · simp [step, h, hf, WaitStep.Settles, WaitStep.token?, ExtTreeMap.getElem?_erase]
      · simp [step, h, hf, WaitStep.Settles]
  | drop name' =>
    show (w.tokens.erase name')[name]? = _
    rw [ExtTreeMap.getElem?_erase]
    simp only [Std.LawfulEqCmp.compare_eq_iff_eq]
    rfl
  | cancel token => rfl

/-- A token is cancelled by the step that cancels it, and stays so. -/
theorem mem_cancelled_step (w : Waiters) (look : Bool → WaitResult) (s : WaitStep)
    (token : String) :
    token ∈ (w.step look s).1.cancelled ↔ token ∈ w.cancelled ∨ s = .cancel token := by
  cases s with
  | once cancelled => simp [step]
  | start name' token' => simp [step]
  | poll name' =>
    cases h : w.cancelled? name' with
    | none => simp [step, h]
    | some cancelled =>
      by_cases hf : (look cancelled).isFinal = true <;> simp [step, h, hf]
  | drop name' => simp [step]
  | cancel token' =>
    show token ∈ w.cancelled.insert token' ↔ _
    rw [ExtTreeSet.mem_insert, Std.LawfulEqCmp.compare_eq_iff_eq]
    simp [or_comm]

/-- A poll looks at the wait of its name, if one is under way. -/
theorem found_poll (w : Waiters) (look : Bool → WaitResult) (name : String) :
    (w.step look (.poll name)).2
      = w.tokens[name]?.map fun token => look (w.cancelled.contains token) := by
  cases h : w.tokens[name]? <;> simp [step, cancelled?, h]

/-! ## Along a history -/

/-- **A name has a token exactly if a wait of this name is under way on it.** -/
theorem getElem?_tokens_eq_some_iff {turns : List Turn} {w : Waiters}
    (path : Steps.Path Turn.Leads {} turns w) (name token : String) :
    w.tokens[name]? = some token ↔ HangsOn turns name token := by
  induction turns using List.reverseRecOn generalizing w with
  | nil =>
    obtain rfl := Steps.path_nil_iff.mp path
    simp [HangsOn, not_lastWhere_nil]
  | append_singleton turns turn ih =>
    obtain ⟨before, first, look, rfl, hfound⟩ := Steps.path_concat_iff.mp path
    rw [getElem?_tokens_step, hfound, HangsOn]
    by_cases hs : turn.Settles name
    · rw [if_pos hs]
      simp only [lastWhere_concat_of_pos hs]
      constructor
      · intro h
        exact ⟨turn, [], ⟨rfl, rfl⟩, h⟩
      · rintro ⟨_, _, ⟨rfl, rfl⟩, h⟩
        exact h
    · rw [if_neg hs, ih first, HangsOn]
      simp only [lastWhere_concat_of_not hs]
      constructor
      · rintro ⟨start, rest, h, ht⟩
        exact ⟨start, rest ++ [turn], ⟨rest, rfl, h⟩, ht⟩
      · rintro ⟨start, _, ⟨rest, rfl, h⟩, ht⟩
        exact ⟨start, rest, h, ht⟩

/-- **A token is cancelled exactly if some turn has cancelled it.** -/
theorem mem_cancelled_iff {turns : List Turn} {w : Waiters}
    (path : Steps.Path Turn.Leads {} turns w) (token : String) :
    token ∈ w.cancelled ↔ .cancel token ∈ turns.map Turn.step := by
  induction turns using List.reverseRecOn generalizing w with
  | nil =>
    obtain rfl := Steps.path_nil_iff.mp path
    simp
  | append_singleton turns turn ih =>
    obtain ⟨before, first, look, rfl, -⟩ := Steps.path_concat_iff.mp path
    rw [mem_cancelled_step, ih first, List.map_append, List.mem_append, List.map_singleton,
      List.mem_singleton, eq_comm (a := turn.step)]

end Waiters

end PodDirectory
