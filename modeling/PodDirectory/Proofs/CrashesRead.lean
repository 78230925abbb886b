import PodDirectory.Proofs.ListingAttempts

/-!
# Which answers are read

Nobody survives an answer that is a crash, but it does harm only to those who read it, and which
answers of a queue are read depends on all the others: on how many requests the attempts take
that fail, and on how often watching breaks off, since only then the objects are listed again.

`Asks` says by the requests how far a feed gets, with `answerAt` for the answer to each request
and without going through any queue. A feed crashes exactly if it asks for a page that is
answered by a crash (`Feed.ending_read_eq_crashed_iff`).
-/

namespace PodDirectory

variable {k : Kind} {answers rest : List ListAnswer} {answer : ListAnswer}
  {watches later : List (List WatchMessage)}

/-- Nobody survives an answer, or reading goes on after it, or it is a last page. -/
theorem ListAnswer.crash_or_goesOn_or_last (answer : ListAnswer) (k : Kind) :
    answer = .crash ∨ answer.GoesOn k ∨ answer.IsPage k false := by
  cases answer with
  | page items more =>
    by_cases hitems : ∀ item ∈ items, (k.decode item).isSome
    · cases more with
      | true => exact Or.inr (Or.inl (Or.inl ⟨items, rfl, hitems⟩))
      | false => exact Or.inr (Or.inr ⟨items, rfl, hitems⟩)
    · have hfails : (page items more).Fails k := by simpa [Fails] using hitems
      exact Or.inr (Or.inl (Or.inr hfails))
  | failure => exact Or.inr (Or.inl (Or.inr trivial))
  | crash => exact Or.inl rfl

/-! ## Requests -/

/-- **Which requests for a page are made**, each with what the requests to watch will receive
from then on. After a page that is not the last one of a listing, or after an attempt that
failed, another page is asked for. After a last page the objects are watched, request by
request, and another page is asked for when the watching breaks off; the end of the messages of
a request does not break it off. -/
inductive Asks (k : Kind) (answers : List ListAnswer) (watches : List (List WatchMessage)) :
    Nat → List (List WatchMessage) → Prop where
  | start : Asks k answers watches 0 watches
  | goesOn {request : Nat} {left : List (List WatchMessage)}
    (h : Asks k answers watches request left) (goes : (answerAt answers request).GoesOn k) :
    Asks k answers watches (request + 1) left
  | again {request : Nat} {quiet later : List (List WatchMessage)} {broken : List WatchMessage}
    (h : Asks k answers watches request (quiet ++ broken :: later))
    (last : (answerAt answers request).IsPage k false)
    (hquiet : ∀ messages ∈ quiet, messages.any (Feed.breaksOff k) = false)
    (hbroken : broken.any (Feed.breaksOff k) = true) :
    Asks k answers watches (request + 1) later

/-- **Whether a crash is read**: a page is asked for and answered by a crash. -/
def ReadsCrash (k : Kind) (answers : List ListAnswer) (watches : List (List WatchMessage)) :
    Prop :=
  ∃ request left, Asks k answers watches request left ∧ answerAt answers request = .crash

/-- From the second request on, the answers are those that the first one has left. -/
theorem answerAt_succ (answer : ListAnswer) (rest : List ListAnswer) (request : Nat) :
    answerAt (answer :: rest) (request + 1) = answerAt (answer.leftAfter rest) request := by
  cases rest with
  | nil => exact (answerAt_singleton answer _).trans (answerAt_singleton answer _).symm
  | cons next rest => exact answerAt_cons_succ answer next rest request

namespace Asks

theorem eq_of_zero {left : List (List WatchMessage)} (h : Asks k answers watches 0 left) :
    left = watches := by
  cases h
  rfl

/-- What is asked for behind the first request is asked for in all. -/
theorem behind {left : List (List WatchMessage)} {request : Nat}
    (first : Asks k (answer :: rest) watches 1 later)
    (h : Asks k (answer.leftAfter rest) later request left) :
    Asks k (answer :: rest) watches (request + 1) left := by
  induction h with
  | start => exact first
  | goesOn _ goes ih => exact ih.goesOn (by rwa [answerAt_succ])
  | again _ last hquiet hbroken ih => exact ih.again (by rwa [answerAt_succ]) hquiet hbroken

/-- What is asked for in all is asked for behind the first request. -/
theorem exists_behind {left : List (List WatchMessage)} {request : Nat}
    (h : Asks k (answer :: rest) watches (request + 1) left) :
    ∃ later, Asks k (answer :: rest) watches 1 later ∧
      Asks k (answer.leftAfter rest) later request left := by
  induction request generalizing left with
  | zero => exact ⟨left, h, .start⟩
  | succ request ih =>
    cases h with
    | goesOn h goes =>
      obtain ⟨later, first, hbehind⟩ := ih h
      rw [answerAt_succ] at goes
      exact ⟨later, first, hbehind.goesOn goes⟩
    | again h last hquiet hbroken =>
      obtain ⟨later, first, hbehind⟩ := ih h
      rw [answerAt_succ] at last
      exact ⟨later, first, hbehind.again last hquiet hbroken⟩

end Asks

/-- A crash that is read behind the first request is read in all. -/
theorem ReadsCrash.behind (first : Asks k (answer :: rest) watches 1 later)
    (h : ReadsCrash k (answer.leftAfter rest) later) : ReadsCrash k (answer :: rest) watches := by
  obtain ⟨request, left, hasks, hcrash⟩ := h
  exact ⟨request + 1, left, first.behind hasks, (answerAt_succ ..).trans hcrash⟩

/-- A crash that is read is among the answers. -/
theorem ReadsCrash.mem (h : ReadsCrash k answers watches) : .crash ∈ answers := by
  obtain ⟨request, -, -, hcrash⟩ := h
  unfold answerAt at hcrash
  cases hget : answers[min request (answers.length - 1)]? with
  | none => simp [hget] at hcrash
  | some answer =>
    rw [hget] at hcrash
    obtain rfl : answer = .crash := hcrash
    exact List.mem_of_getElem? hget

/-! ## Endings -/

namespace Feed

/-- Items before a listing do not change how what follows it ends. -/
theorem ending_ofListing_after (l : Listing k) (earlier : List (FeedItem k))
    (next : List ListAnswer → Feed k) :
    (ofListing (l.after earlier) next).ending = (ofListing l next).ending := by
  unfold ofListing followed Listing.after
  cases l.ending <;> rfl

/-- Where reading goes on, it ends as it would have ended without the answer. -/
theorem ending_read_of_goesOn (h : answer.GoesOn k) :
    (read k (answer :: rest) watches).ending = (read k rest watches).ending := by
  rcases ListAnswer.goesOn_iff.mp h with hread | ⟨objects, hread⟩
  · simp only [read, Listing.read, hread, ending_ofListing_after]
  · simp only [read, Listing.read, hread, ending_ofListing_after]

/-- After a last page it ends as the watching does. -/
theorem ending_read_of_last (h : answer.IsPage k false) :
    (read k (answer :: rest) watches).ending
      = (watch k (answer.leftAfter rest) watches).ending := by
  obtain ⟨objects, hread⟩ := ListAnswer.exists_read_eq_objects_iff.mpr h
  simp only [read, Listing.read, hread]
  rfl

/-- Watching goes on through requests that do not break it off, and behind the one that does
the objects are listed again. -/
theorem ending_watch_of_broken {quiet : List (List WatchMessage)} {broken : List WatchMessage}
    (hquiet : ∀ messages ∈ quiet, messages.any (breaksOff k) = false)
    (hbroken : broken.any (breaksOff k) = true) :
    (watch k answers (quiet ++ broken :: later)).ending = (read k answers later).ending := by
  induction quiet with
  | nil =>
    rw [List.nil_append, watch, if_pos hbroken]
    rfl
  | cons messages quiet ih =>
    rw [List.forall_mem_cons] at hquiet
    rw [List.cons_append, watch, if_neg (Bool.eq_false_iff.mp hquiet.1), ← ih hquiet.2]
    rfl

/-- Watching that crashes has been broken off, and the listing after that crashes. -/
theorem exists_broken (h : (watch k answers watches).ending = .crashed) :
    ∃ quiet broken later, watches = quiet ++ broken :: later ∧
      (∀ messages ∈ quiet, messages.any (breaksOff k) = false) ∧
      broken.any (breaksOff k) = true ∧ (read k answers later).ending = .crashed := by
  induction watches with
  | nil => cases h
  | cons messages watches ih =>
    by_cases hbroken : messages.any (breaksOff k) = true
    · rw [watch, if_pos hbroken] at h
      exact ⟨[], messages, watches, rfl, by simp, hbroken, h⟩
    · rw [watch, if_neg hbroken] at h
      obtain ⟨quiet, broken, later, rfl, hquiet, hrest⟩ := ih h
      refine ⟨messages :: quiet, broken, later, rfl, ?_, hrest⟩
      exact List.forall_mem_cons.mpr ⟨Bool.eq_false_iff.mpr hbroken, hquiet⟩

/-- **A request that does not crash leaves the ending to those behind it.** -/
theorem ending_read_of_asks (first : Asks k (answer :: rest) watches 1 later) :
    (read k (answer :: rest) watches).ending
      = (read k (answer.leftAfter rest) later).ending := by
  cases first with
  | goesOn h goes =>
    obtain rfl := h.eq_of_zero
    rw [answerAt_cons_zero] at goes
    rw [ending_read_of_goesOn goes]
    cases rest with
    | nil => exact (ending_read_of_goesOn goes).symm
    | cons next rest => rfl
  | again h last hquiet hbroken =>
    obtain rfl := h.eq_of_zero
    rw [answerAt_cons_zero] at last
    rw [ending_read_of_last last, ending_watch_of_broken hquiet hbroken]

/-- A feed that asks for a page that is answered by a crash crashes. -/
theorem ending_read_of_readsCrash (h : ReadsCrash k answers watches) :
    (read k answers watches).ending = .crashed := by
  obtain ⟨request, left, hasks, hcrash⟩ := h
  -- request by request, each of which leaves the ending to the next ones
  induction request generalizing answers watches with
  | zero =>
    cases answers with
    | nil => simp [answerAt] at hcrash
    | cons answer rest =>
      obtain rfl : answer = .crash := (answerAt_cons_zero ..).symm.trans hcrash
      rfl
  | succ request ih =>
    cases answers with
    | nil => simp [answerAt] at hcrash
    | cons answer rest =>
      obtain ⟨later, first, hbehind⟩ := hasks.exists_behind
      rw [answerAt_succ] at hcrash
      rw [ending_read_of_asks first]
      exact ih hbehind hcrash

/-- A feed that crashes has asked for a page that is answered by a crash. -/
theorem readsCrash_of_ending (h : (read k answers watches).ending = .crashed) :
    ReadsCrash k answers watches := by
  -- listing again uses up requests to watch, and all else that goes on uses up answers
  induction hlength : watches.length using Nat.strongRecOn generalizing answers watches with
  | ind n ih =>
    subst hlength
    induction answers with
    | nil => cases h
    | cons answer rest ihrest =>
      rcases answer.crash_or_goesOn_or_last k with rfl | hgoes | hlast
      · exact ⟨0, watches, .start, answerAt_cons_zero ..⟩
      · rw [ending_read_of_goesOn hgoes] at h
        cases rest with
        | nil => cases h
        | cons next rest =>
          exact .behind (Asks.start.goesOn (by rwa [answerAt_cons_zero])) (ihrest h)
      · rw [ending_read_of_last hlast] at h
        obtain ⟨quiet, broken, later, rfl, hquiet, hbroken, hrest⟩ := exists_broken h
        have hbehind : ReadsCrash k (answer.leftAfter rest) later :=
          ih later.length (by simp; omega) hrest rfl
        exact .behind (Asks.start.again (by rwa [answerAt_cons_zero]) hquiet hbroken) hbehind

/-- **A feed crashes exactly if a crash is read.** -/
theorem ending_read_eq_crashed_iff :
    (read k answers watches).ending = .crashed ↔ ReadsCrash k answers watches :=
  ⟨readsCrash_of_ending, ending_read_of_readsCrash⟩

end Feed

end PodDirectory
