/-!
# Steps that leave something behind

Whatever changes over time here changes in steps, and each step leaves a list of things
behind: lines for the log, or things to be done. `Steps.run` takes steps one after the
other and keeps what they leave, in order. Its laws say that a run is a run of its first
part followed by a run of its second, and that what every step keeps a run keeps.
-/

namespace PodDirectory.Steps

variable {σ α β : Type}

/-- Takes steps one after the other: the last state, and all that was left behind. -/
def run (step : σ → α → σ × List β) (s : σ) : List α → σ × List β
  | [] => (s, [])
  | a :: rest =>
    let (next, left) := step s a
    let (last, more) := run step next rest
    (last, left ++ more)

@[simp] theorem run_nil (step : σ → α → σ × List β) (s : σ) : run step s [] = (s, []) := rfl

theorem run_cons (step : σ → α → σ × List β) (s : σ) (a : α) (rest : List α) :
    run step s (a :: rest)
      = ((run step (step s a).1 rest).1, (step s a).2 ++ (run step (step s a).1 rest).2) := rfl

/-- A run of two parts is a run of the first and then of the second. -/
theorem run_append (step : σ → α → σ × List β) (s : σ) (first second : List α) :
    run step s (first ++ second)
      = ((run step (run step s first).1 second).1,
          (run step s first).2 ++ (run step (run step s first).1 second).2) := by
  induction first generalizing s with
  | nil => rfl
  | cons a rest ih => simp [run_cons, ih, List.append_assoc]

/-- What holds at the start and is kept by every step holds at the end. -/
theorem run_keeps {step : σ → α → σ × List β} {P : σ → Prop}
    (keeps : ∀ s a, P s → P (step s a).1) {s : σ} (start : P s) (as : List α) :
    P (run step s as).1 := by
  induction as generalizing s with
  | nil => exact start
  | cons a rest ih => exact ih (keeps s a start)

end PodDirectory.Steps
