import PodDirectory.Watch.Feed

/-!
# What is taken for granted of a library that lists and watches

The feeds of watchers come from a library of which no more is known than what it does next, given
the answers that are left and what the requests to watch will receive: its laws, one for each
thing that can happen (`FeedSource.IsLawful`). `Feed.read` obeys them
(`FeedSource.isLawful_ofRead`), and whatever obeys them makes the same of the same answers
(`FeedSource.IsLawful.eq`). So whatever is said of `Feed.read` is said of every such library, and
the laws are all that it goes by.

That a feed is never over is not one of the laws but follows from them
(`FeedSource.IsLawful.ending_ne_closed`).
-/

namespace PodDirectory

variable {k : Kind}

/-- **A library that lists and watches** objects of one kind: the feeds that it makes of the
answers that are left and of what each request to watch will receive. -/
structure FeedSource (k : Kind) where
  /-- The feed before a listing has started. -/
  start : List ListAnswer → List (List WatchMessage) → Feed k
  /-- The feed while objects are listed. -/
  list : List ListAnswer → List (List WatchMessage) → Feed k
  /-- The feed while objects are watched. -/
  watch : List ListAnswer → List (List WatchMessage) → Feed k

namespace FeedSource

/-- **The laws of listing and watching.** -/
structure IsLawful (source : FeedSource k) : Prop where
  /-- The start of a listing is an event of its own. -/
  start (answers : List ListAnswer) (watches : List (List WatchMessage)) :
    source.start answers watches = (source.list answers watches).after [.ok .listingStarted]
  /-- The objects of a page are passed on, and if there are more pages, the next one is read. -/
  page {answer : ListAnswer} {objects : List k.Object} (h : answer.read k = .objects objects true)
    (rest : List ListAnswer) (watches : List (List WatchMessage)) :
    source.list (answer :: rest) watches =
      (source.list rest watches).after (listedItems objects)
  /-- If there are none, the listing is done and the objects are watched. Further listings go on
  with the answers that are left, or with the last one over again. -/
  lastPage {answer : ListAnswer} {objects : List k.Object}
    (h : answer.read k = .objects objects false) (rest : List ListAnswer)
    (watches : List (List WatchMessage)) :
    source.list (answer :: rest) watches = (source.watch (answer.leftAfter rest) watches).after
      (listedItems objects ++ [.ok .listingDone])
  /-- After a failure the listing starts over. -/
  retry {answer : ListAnswer} (h : answer.read k = .failed) (rest : List ListAnswer)
    (watches : List (List WatchMessage)) :
    source.list (answer :: rest) watches = (source.start rest watches).after [.error .listing]
  crash {answer : ListAnswer} (h : answer.read k = .crashed) (rest : List ListAnswer)
    (watches : List (List WatchMessage)) :
    source.list (answer :: rest) watches = ⟨[], .crashed⟩
  /-- When all answers have been read without a last page, the last one is repeated and brings
  nothing new. -/
  stalled (watches : List (List WatchMessage)) : source.list [] watches = ⟨[], .stalled⟩
  /-- A message is passed on, unless it is a bookmark, and the next one is waited for. -/
  message {message : WatchMessage} (h : Feed.breaksOff k message = false)
    (answers : List ListAnswer) (messages : List WatchMessage)
    (later : List (List WatchMessage)) :
    source.watch answers ((message :: messages) :: later) =
      (source.watch answers (messages :: later)).after (Feed.itemOf? k message).toList
  /-- After a message that breaks the watching off the objects are listed again. The other messages
  of the request are lost. -/
  broken {message : WatchMessage} (h : Feed.breaksOff k message = true)
    (answers : List ListAnswer) (messages : List WatchMessage)
    (later : List (List WatchMessage)) :
    source.watch answers ((message :: messages) :: later) =
      (source.start answers later).after (Feed.itemOf? k message).toList
  /-- After the last message of a request the next one goes on from there. -/
  next (answers : List ListAnswer) (later : List (List WatchMessage)) :
    source.watch answers ([] :: later) = source.watch answers later
  /-- The last request stays open. -/
  quiet (answers : List ListAnswer) : source.watch answers [] = ⟨[], .quiet⟩

/-! ## Reading queues is lawful -/

/-- The feeds that are read from queues. -/
def ofRead (k : Kind) : FeedSource k where
  start := .read k
  list answers watches := Feed.followed (.read k answers) fun left => .watch k left watches
  watch := .watch k

/-- **Feeds that are read from queues obey the laws.** -/
theorem isLawful_ofRead (k : Kind) : (ofRead k).IsLawful where
  start _ _ := rfl
  page h rest watches := by simp only [ofRead, Listing.read, h, Feed.followed_after]
  lastPage h rest watches := by simp only [ofRead, Listing.read, h, Feed.followed]
  retry h rest watches := by
    simp only [ofRead, Listing.read, h, Feed.followed_after, Feed.read, Feed.ofListing,
      Feed.after_after]
    rfl
  crash h rest watches := by simp only [ofRead, Listing.read, h, Feed.followed]
  stalled _ := rfl
  message h answers messages later := by
    simp only [ofRead, Feed.watch, Feed.itemsOf, List.any_cons, h, Bool.false_or,
      Bool.false_eq_true, if_false, Feed.after_after]
  broken h answers messages later := by
    simp only [ofRead, Feed.watch, Feed.itemsOf, List.any_cons, h, Bool.true_or, if_true,
      List.append_nil]
    rfl
  next answers later := Feed.after_nil _
  quiet _ := rfl

/-! ## The laws leave nothing open -/

variable {source other : FeedSource k}

namespace IsLawful

/-- Listing comes to the same if watching does, whichever answers are left for it. -/
theorem list_eq (h : source.IsLawful) (h' : other.IsLawful)
    {watches : List (List WatchMessage)}
    (hwatch : ∀ left, source.watch left watches = other.watch left watches)
    (answers : List ListAnswer) : source.list answers watches = other.list answers watches := by
  induction answers with
  | nil => rw [h.stalled, h'.stalled]
  | cons answer rest ih =>
    cases hread : answer.read k with
    | crashed => rw [h.crash hread, h'.crash hread]
    | failed => rw [h.retry hread, h'.retry hread, h.start, h'.start, ih]
    | objects objects more =>
      cases more with
      | true => rw [h.page hread, h'.page hread, ih]
      | false => rw [h.lastPage hread, h'.lastPage hread, hwatch]

/-- Watching comes to the same, request by request and message by message. -/
theorem watch_eq (h : source.IsLawful) (h' : other.IsLawful) (answers : List ListAnswer)
    (watches : List (List WatchMessage)) :
    source.watch answers watches = other.watch answers watches := by
  induction watches generalizing answers with
  | nil => rw [h.quiet, h'.quiet]
  | cons messages later ih =>
    induction messages with
    | nil => rw [h.next, h'.next, ih]
    | cons message messages ihmessages =>
      cases hbroken : Feed.breaksOff k message with
      | true => rw [h.broken hbroken, h'.broken hbroken, h.start, h'.start, h.list_eq h' ih]
      | false => rw [h.message hbroken, h'.message hbroken, ihmessages]

/-- **Libraries that obey the laws make the same of the same answers.** -/
theorem eq (h : source.IsLawful) (h' : other.IsLawful) : source = other := by
  have hlist : ∀ answers watches, source.list answers watches = other.list answers watches :=
    fun answers _ => h.list_eq h' (fun left => h.watch_eq h' left _) answers
  have hstart : ∀ answers watches, source.start answers watches = other.start answers watches :=
    fun answers watches => by rw [h.start, h'.start, hlist]
  obtain ⟨start, list, watch⟩ := source
  obtain ⟨start', list', watch'⟩ := other
  obtain rfl : start = start' := funext fun answers => funext (hstart answers)
  obtain rfl : list = list' := funext fun answers => funext (hlist answers)
  obtain rfl : watch = watch' := funext fun answers => funext (h.watch_eq h' answers)
  rfl

/-- **What a library that obeys the laws makes of the answers is what is read from them.** -/
theorem start_eq_read (h : source.IsLawful) (answers : List ListAnswer)
    (watches : List (List WatchMessage)) :
    source.start answers watches = .read k answers watches := by
  rw [h.eq (isLawful_ofRead k)]
  rfl

/-- **A feed is never over.** -/
theorem ending_ne_closed (h : source.IsLawful) (answers : List ListAnswer)
    (watches : List (List WatchMessage)) : (source.start answers watches).ending ≠ .closed := by
  rw [h.start_eq_read]
  exact Feed.ending_ofListing_ne_closed _ fun left => Feed.ending_watch_ne_closed left watches

end IsLawful

end FeedSource

end PodDirectory
