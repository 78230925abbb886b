import Mathlib.Data.List.Basic
import PodDirectory.Watch.Feed

/-!
# Attempts at a listing

Whoever lists the objects of a kind reads one answer after the other, and the last answer of the
queue again and again. An attempt at a listing goes from page to page. It is complete with the
first page that promises no more, and it fails at the first answer that is no good: a failure,
or a page with an item that cannot be decoded. Then the next attempt starts behind it.

`CompletesAttempt` says by the requests that some attempt is completed, and `completes` decides
it by going through the queue once: some page promises no more, and no crash comes before it.
The two are the same (`completesAttempt_iff`), and they say when a listing is complete
(`Listing.listingDone_mem_read_iff`).
-/

namespace PodDirectory

/-! ## What answers are good for -/

namespace ListAnswer

variable {k : Kind} {answer : ListAnswer}

/-- Whether an answer is a page all of whose items can be decoded as objects of a kind. -/
def IsPage (k : Kind) (answer : ListAnswer) (more : Bool) : Prop :=
  ∃ items, answer = .page items more ∧ ∀ item ∈ items, (k.decode item).isSome

/-- Whether an attempt to list the objects of a kind fails at an answer. -/
def Fails (k : Kind) : ListAnswer → Prop
  | page items _ => ∃ item ∈ items, k.decode item = none
  | failure => True
  | crash => False

/-- Whether reading goes on after an answer, with the next page or with the next attempt. -/
def GoesOn (k : Kind) (answer : ListAnswer) : Prop := answer.IsPage k true ∨ answer.Fails k

/-- The items of a page are decoded together if each of them can be decoded. -/
theorem isSome_mapM_decode_iff {items : List Json} :
    (items.mapM k.decode).isSome ↔ ∀ item ∈ items, (k.decode item).isSome := by
  induction items with
  | nil => simp
  | cons item items ih =>
    rw [List.mapM_cons, List.forall_mem_cons, ← ih]
    cases k.decode item with
    | none => simp
    | some object => cases items.mapM k.decode <;> simp

theorem read_page (k : Kind) (items : List Json) (more : Bool) :
    (page items more).read k = (items.mapM k.decode).elim .failed (.objects · more) := by
  cases hitems : items.mapM k.decode <;> simp [read, hitems]

/-- A page is read as one if all of its items can be decoded. -/
theorem exists_read_eq_objects_iff {more : Bool} :
    (∃ objects, answer.read k = .objects objects more) ↔ answer.IsPage k more := by
  cases answer with
  | page items more' =>
    unfold IsPage
    rw [read_page]
    cases hitems : items.mapM k.decode with
    | none =>
      have hsome : ¬ ∀ item ∈ items, (k.decode item).isSome :=
        isSome_mapM_decode_iff.not.mp (by simp [hitems])
      simp [hsome]
    | some objects =>
      have hsome := isSome_mapM_decode_iff.mp (Option.isSome_of_eq_some hitems)
      simpa using fun _ => hsome
  | failure => simp [read, IsPage]
  | crash => simp [read, IsPage]

/-- An attempt fails at the answers that are read as failures. -/
theorem read_eq_failed_iff : answer.read k = .failed ↔ answer.Fails k := by
  cases answer with
  | page items more =>
    rw [read_page]
    have hsome : (items.mapM k.decode).isSome ↔ ∀ item ∈ items, (k.decode item).isSome :=
      isSome_mapM_decode_iff
    cases hitems : items.mapM k.decode with
    | none => simpa [Fails, hitems] using hsome
    | some objects => simpa [Fails, hitems, Option.ne_none_iff_isSome] using hsome
  | failure => simp [read, Fails]
  | crash => simp [read, Fails]

/-- Reading goes on after an answer unless it is a last page or nobody survives it. -/
theorem goesOn_iff : answer.GoesOn k ↔
    answer.read k = .failed ∨ ∃ objects, answer.read k = .objects objects true := by
  unfold GoesOn
  rw [read_eq_failed_iff, exists_read_eq_objects_iff, or_comm]

end ListAnswer

/-! ## Going through the queue -/

/-- **Whether some attempt is completed** by the answers of a queue: one of them is a last page,
and no crash comes before it. -/
def completes (k : Kind) : List ListAnswer → Bool
  | [] => false
  | answer :: rest =>
    match answer.read k with
    | .crashed => false
    | .failed => completes k rest
    | .objects _ true => completes k rest
    | .objects _ false => true

theorem completes_cons_eq_true_iff {k : Kind} {answer : ListAnswer} {rest : List ListAnswer} :
    completes k (answer :: rest) = true ↔
      answer.IsPage k false ∨ answer.GoesOn k ∧ completes k rest = true := by
  rw [← ListAnswer.exists_read_eq_objects_iff, ListAnswer.goesOn_iff]
  cases hread : answer.read k with
  | crashed => simp [completes, hread]
  | failed => simp [completes, hread]
  | objects objects more => cases more <;> simp [completes, hread]

/-- **The end of a listing is reached** if some attempt is completed, and not otherwise. -/
theorem Listing.listingDone_mem_read_iff {k : Kind} {answers : List ListAnswer} :
    .listingDone ∈ (Listing.read k answers).events ↔ completes k answers = true := by
  induction answers with
  | nil => simp [Listing.read, completes]
  | cons answer rest ih =>
    cases hread : answer.read k with
    | crashed => simp [Listing.read, completes, hread]
    | failed => simpa [Listing.read, completes, hread] using ih
    | objects objects more =>
      cases more with
      | false => simp [Listing.read, completes, hread]
      | true => simpa [Listing.read, completes, hread] using ih

/-- A listing that does not reach its end leaves nothing to go on with. -/
theorem Listing.completes_of_ending {k : Kind} {answers left : List ListAnswer}
    (h : (Listing.read k answers).ending = .complete left) : completes k answers = true := by
  induction answers with
  | nil => cases h
  | cons answer rest ih =>
    unfold Listing.read at h
    cases hread : answer.read k with
    | crashed => simp [hread] at h
    | failed =>
      simp only [hread, Listing.ending_after] at h
      simpa [completes, hread] using ih h
    | objects objects more =>
      cases more with
      | false => simp [completes, hread]
      | true =>
        simp only [hread, Listing.ending_after] at h
        simpa [completes, hread] using ih h

/-- **The first listing of a feed decides** whether any listing of it is ever done. -/
theorem Feed.listingDone_mem_read_iff {k : Kind} {answers : List ListAnswer}
    {watches : List (List WatchMessage)} :
    .listingDone ∈ (Feed.read k answers watches).events ↔ completes k answers = true := by
  rw [← Listing.listingDone_mem_read_iff]
  unfold Feed.read Feed.ofListing Feed.followed
  cases hending : (Listing.read k answers).ending with
  | complete left =>
    have hdone := Listing.listingDone_mem_read_iff.mpr (Listing.completes_of_ending hending)
    simp [hdone]
  | stalled => simp
  | crashed => simp

/-! ## Request by request -/

/-- **The answer to each request**: the answers of the queue one by one, and then the last one
for good. Without answers every request fails. -/
def answerAt (answers : List ListAnswer) (request : Nat) : ListAnswer :=
  answers[min request (answers.length - 1)]?.getD .failure

/-- **Where attempts start**: with the first request, and behind every request at which an
attempt fails. -/
inductive StartsAttempt (k : Kind) (answers : List ListAnswer) : Nat → Prop where
  | first : StartsAttempt k answers 0
  | again {start failed : Nat} (h : StartsAttempt k answers start) (le : start ≤ failed)
    (pages : ∀ n, start ≤ n → n < failed → (answerAt answers n).IsPage k true)
    (fails : (answerAt answers failed).Fails k) : StartsAttempt k answers (failed + 1)

/-- **Whether some attempt is completed**: from where it starts, every request is answered by a
page that promises more, up to one that is answered by a last page. -/
def CompletesAttempt (k : Kind) (answers : List ListAnswer) : Prop :=
  ∃ start last, StartsAttempt k answers start ∧ start ≤ last ∧
    (∀ n, start ≤ n → n < last → (answerAt answers n).IsPage k true) ∧
    (answerAt answers last).IsPage k false

variable {k : Kind} {answers : List ListAnswer}

/-- Reading goes on at all requests before an attempt. -/
theorem StartsAttempt.goesOn {start : Nat} (h : StartsAttempt k answers start) :
    ∀ n < start, (answerAt answers n).GoesOn k := by
  induction h with
  | first => simp
  | @again start failed _ le pages fails ih =>
    intro n hn
    rcases Nat.lt_or_ge n start with hlt | hge
    · exact ih n hlt
    rcases Nat.lt_or_ge n failed with hlt | hge'
    · exact Or.inl (pages n hge hlt)
    · obtain rfl : n = failed := by omega
      exact Or.inr fails

/-- Where reading goes on at all requests so far, some attempt is under way. -/
theorem exists_startsAttempt {request : Nat} (h : ∀ n < request, (answerAt answers n).GoesOn k) :
    ∃ start ≤ request, StartsAttempt k answers start ∧
      ∀ n, start ≤ n → n < request → (answerAt answers n).IsPage k true := by
  induction request with
  | zero => exact ⟨0, Nat.le_refl _, .first, by omega⟩
  | succ request ih =>
    obtain ⟨start, hle, hstart, hpages⟩ := ih fun n hn => h n (by omega)
    rcases h request (by omega) with hpage | hfails
    · refine ⟨start, by omega, hstart, fun n hge hlt => ?_⟩
      rcases Nat.lt_or_ge n request with hn | hn
      · exact hpages n hge hn
      · obtain rfl : n = request := by omega
        exact hpage
    · exact ⟨request + 1, Nat.le_refl _, .again hstart hle hpages hfails, by omega⟩

/-- Some attempt is completed if a request is answered by a last page and reading goes on at all
requests before. -/
theorem completesAttempt_iff_exists : CompletesAttempt k answers ↔
    ∃ last, (∀ n < last, (answerAt answers n).GoesOn k) ∧
      (answerAt answers last).IsPage k false := by
  constructor
  · rintro ⟨start, last, hstart, hle, hpages, hlast⟩
    refine ⟨last, fun n hn => ?_, hlast⟩
    rcases Nat.lt_or_ge n start with hlt | hge
    · exact hstart.goesOn n hlt
    · exact Or.inl (hpages n hge hn)
  · rintro ⟨last, hgoes, hlast⟩
    obtain ⟨start, hle, hstart, hpages⟩ := exists_startsAttempt hgoes
    exact ⟨start, last, hstart, hle, hpages, hlast⟩

theorem answerAt_cons_zero (answer : ListAnswer) (rest : List ListAnswer) :
    answerAt (answer :: rest) 0 = answer := by
  simp [answerAt]

theorem answerAt_cons_succ (answer next : ListAnswer) (rest : List ListAnswer) (n : Nat) :
    answerAt (answer :: next :: rest) (n + 1) = answerAt (next :: rest) n := by
  have hmin : min (n + 1) ((answer :: next :: rest).length - 1)
      = min n ((next :: rest).length - 1) + 1 := by
    simp only [List.length_cons]
    omega
  unfold answerAt
  rw [hmin, List.getElem?_cons_succ]

/-- A queue of one answer gives it to every request. -/
theorem answerAt_singleton (answer : ListAnswer) (n : Nat) : answerAt [answer] n = answer := by
  simp [answerAt]

/-- **Going through the queue once decides** whether some attempt is completed. -/
theorem completesAttempt_iff : CompletesAttempt k answers ↔ completes k answers = true := by
  rw [completesAttempt_iff_exists]
  induction answers with
  | nil => simp [completes, answerAt, ListAnswer.IsPage]
  | cons answer rest ih =>
    rw [completes_cons_eq_true_iff]
    cases rest with
    | nil =>
      -- the only answer is given to every request
      simp only [answerAt_singleton, completes, Bool.false_eq_true, and_false, or_false]
      exact ⟨fun ⟨_, _, hpage⟩ => hpage, fun hpage => ⟨0, by omega, hpage⟩⟩
    | cons next rest =>
      rw [← ih]
      constructor
      · rintro ⟨_ | last, hgoes, hlast⟩
        · rw [answerAt_cons_zero] at hlast
          exact Or.inl hlast
        · have hfirst := hgoes 0 (by omega)
          rw [answerAt_cons_zero] at hfirst
          rw [answerAt_cons_succ] at hlast
          refine Or.inr ⟨hfirst, last, fun n hn => ?_, hlast⟩
          rw [← answerAt_cons_succ answer]
          exact hgoes (n + 1) (by omega)
      · rintro (hpage | ⟨hfirst, last, hgoes, hlast⟩)
        · refine ⟨0, by omega, ?_⟩
          rwa [answerAt_cons_zero]
        · refine ⟨last + 1, fun n hn => ?_, ?_⟩
          · cases n with
            | zero => rwa [answerAt_cons_zero]
            | succ n =>
              rw [answerAt_cons_succ]
              exact hgoes n (by omega)
          · rwa [answerAt_cons_succ]

/-- Without answers no attempt is completed. -/
theorem not_completesAttempt_nil (k : Kind) : ¬ CompletesAttempt k [] := by
  rw [completesAttempt_iff]
  simp [completes]

end PodDirectory
