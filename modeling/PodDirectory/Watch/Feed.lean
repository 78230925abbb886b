import PodDirectory.Cluster.Status
import PodDirectory.Tracker
import PodDirectory.Watch.Server

/-!
# From answers to events

The answers of a server make up the feed of a watcher: events for its tracker, and failures, after
each of which the feed goes on by itself. Feeds come from a library that lists and watches, and
`Feed.read` stands for it here. What is taken for granted of the library is as follows, and stands
clause by clause in `FeedSource.IsLawful`, which `Feed.read` obeys.

A listing reads pages until one comes without more to follow. If a page cannot be had, or
has an item that cannot be decoded, this is a failure, and the listing starts over with the next
answer, and what the earlier pages delivered stays delivered. A complete listing is watched from
there on. Bookmarks are passed over. A message that cannot be decoded is a failure, and so is
an error that the server tells of. Two failures break the watching off: the
status code 410, which says that the past is gone, and an object that does not say its
version, since versions are what the watching goes by. Then the rest of
that request is lost, the objects are listed again, and the next request to watch goes on
from there.

The last answer of a queue is repeated. If it completes a listing, it completes the next
one too. If it does not, because it is a failure or a page that promises more, then no
repetition does either, and the listing makes no more progress; the repetitions are left
out of the feed, since they bring nothing new. So a feed tells where its failures are, but not how
often the last one is repeated, and nothing is said of the lines that are logged of failures.

A feed is never over: where nothing is left to arrive, it stays open.

Requests for a page and requests to watch have their own targets. Only with targets that
say what is asked for does a server answer accordingly (`Feed.under_eq_read`).
-/

namespace PodDirectory

/-! ## Items -/

/-- An item of a feed: an event, or a failure in its place. -/
abbrev FeedItem (k : Kind) := Except FeedFailure (WatchEvent k)

/-- The events among the items of a feed. -/
def eventsIn {k : Kind} (items : List (FeedItem k)) : List (WatchEvent k) :=
  items.filterMap Except.toOption

section EventsIn

variable {k : Kind}

@[simp] theorem eventsIn_nil : eventsIn ([] : List (FeedItem k)) = [] := rfl

@[simp] theorem eventsIn_ok (e : WatchEvent k) (items : List (FeedItem k)) :
    eventsIn (.ok e :: items) = e :: eventsIn items := rfl

@[simp] theorem eventsIn_error (failure : FeedFailure) (items : List (FeedItem k)) :
    eventsIn (.error failure :: items) = eventsIn items := rfl

@[simp] theorem eventsIn_append (first second : List (FeedItem k)) :
    eventsIn (first ++ second) = eventsIn first ++ eventsIn second :=
  List.filterMap_append

/-- Objects of a listing, as items. -/
def listedItems (objects : List k.Object) : List (FeedItem k) :=
  objects.map fun o => .ok (.listed o)

@[simp] theorem eventsIn_listedItems (objects : List k.Object) :
    eventsIn (listedItems objects) = objects.map .listed := by
  induction objects with
  | nil => rfl
  | cons o objects ih => exact congrArg (WatchEvent.listed o :: ·) ih

end EventsIn

/-! ## Listing -/

/-- What a page says to someone who reads it for objects of one kind. -/
inductive Page (k : Kind) where
  | objects (items : List k.Object) (more : Bool)
  | failed
  | crashed

/-- Reads an answer. One item that cannot be decoded spoils the page. -/
def ListAnswer.read (k : Kind) : ListAnswer → Page k
  | page items more =>
    match items.mapM k.decode with
    | some objects => .objects objects more
    | none => .failed
  | failure => .failed
  | crash => .crashed

/-- How a listing ends. -/
inductive ListingEnd where
  /-- It is complete, and these answers are left. -/
  | complete (remaining : List ListAnswer)
  /-- It makes no more progress. -/
  | stalled
  | crashed

/-- The items of a listing, without the event that starts it, and its end. -/
structure Listing (k : Kind) where
  items : List (FeedItem k)
  ending : ListingEnd

namespace Listing

variable {k : Kind}

/-- The events of a listing. -/
def events (l : Listing k) : List (WatchEvent k) := eventsIn l.items

/-- A listing with items before it. -/
def after (l : Listing k) (earlier : List (FeedItem k)) : Listing k :=
  { l with items := earlier ++ l.items }

@[simp] theorem events_mk (items : List (FeedItem k)) (ending : ListingEnd) :
    events ⟨items, ending⟩ = eventsIn items := rfl

@[simp] theorem eventsIn_items (l : Listing k) : eventsIn l.items = l.events := rfl

@[simp] theorem events_after (l : Listing k) (earlier : List (FeedItem k)) :
    (l.after earlier).events = eventsIn earlier ++ l.events :=
  eventsIn_append earlier l.items

@[simp] theorem ending_after (l : Listing k) (earlier : List (FeedItem k)) :
    (l.after earlier).ending = l.ending := rfl

end Listing

/-- The answers left after one was taken from the front: the last one stays. -/
def ListAnswer.leftAfter (taken : ListAnswer) : List ListAnswer → List ListAnswer
  | [] => [taken]
  | rest => rest

/-- **Reads a listing** that has started from a queue of answers. -/
def Listing.read (k : Kind) : List ListAnswer → Listing k
  | [] => ⟨[], .stalled⟩
  | answer :: rest =>
    match answer.read k with
    | .crashed => ⟨[], .crashed⟩
    | .failed => (Listing.read k rest).after [.error .listing, .ok .listingStarted]
    | .objects objects true => (Listing.read k rest).after (listedItems objects)
    | .objects objects false =>
      ⟨listedItems objects ++ [.ok .listingDone], .complete (answer.leftAfter rest)⟩

/-! ## Watching -/

/-- How a feed ends. -/
inductive FeedEnd where
  /-- Everything has arrived, and the last request to watch stays open. -/
  | quiet
  /-- A listing makes no more progress. -/
  | stalled
  /-- The feed is over. No feed from a server ends so (`Feed.ending_under_ne_closed`). -/
  | closed
  /-- An answer was read that nobody survives. -/
  | crashed
deriving DecidableEq, Repr

/-- What a watcher is fed with, and how it ends. -/
structure Feed (k : Kind) where
  items : List (FeedItem k)
  ending : FeedEnd

namespace Feed

variable {k : Kind}

/-- The events that a tracker is fed with. -/
def events (f : Feed k) : List (WatchEvent k) := eventsIn f.items

/-- A feed with items before it. -/
def after (f : Feed k) (earlier : List (FeedItem k)) : Feed k :=
  { f with items := earlier ++ f.items }

@[simp] theorem events_mk (items : List (FeedItem k)) (ending : FeedEnd) :
    events ⟨items, ending⟩ = eventsIn items := rfl

@[simp] theorem eventsIn_items (f : Feed k) : eventsIn f.items = f.events := rfl

@[simp] theorem events_after (f : Feed k) (earlier : List (FeedItem k)) :
    (f.after earlier).events = eventsIn earlier ++ f.events :=
  eventsIn_append earlier f.items

@[simp] theorem ending_after (f : Feed k) (earlier : List (FeedItem k)) :
    (f.after earlier).ending = f.ending := rfl

theorem after_nil (f : Feed k) : f.after [] = f := rfl

theorem after_after (f : Feed k) (later earlier : List (FeedItem k)) :
    (f.after later).after earlier = f.after (earlier ++ later) := by
  simp only [after, List.append_assoc]

/-- A listing that has started, and what follows it if it is complete. -/
def followed (l : Listing k) (next : List ListAnswer → Feed k) : Feed k :=
  match l.ending with
  | .complete left => (next left).after l.items
  | .stalled => ⟨l.items, .stalled⟩
  | .crashed => ⟨l.items, .crashed⟩

theorem followed_after (l : Listing k) (earlier : List (FeedItem k))
    (next : List ListAnswer → Feed k) :
    followed (l.after earlier) next = (followed l next).after earlier := by
  unfold followed Listing.after
  cases l.ending with
  | complete left => exact (after_after ..).symm
  | stalled | crashed => rfl

/-- A listing from its start, and what follows it if it is complete. -/
def ofListing (l : Listing k) (next : List ListAnswer → Feed k) : Feed k :=
  (followed l next).after [.ok .listingStarted]

/-- The object that a message is about. It has to say its version. -/
def versioned (k : Kind) (value : Json) : Except FeedFailure k.Object :=
  match k.decode value with
  | some o => if (k.metadata o).isVersioned then .ok o else .error .unversioned
  | none => .error .watching

/-- The item that a message comes to. Bookmarks come to nothing. -/
def itemOf? (k : Kind) : WatchMessage → Option (FeedItem k)
  | .added o | .modified o => some ((versioned k o).map .changed)
  | .deleted o => some ((versioned k o).map .deleted)
  | .bookmark => none
  | .error status => some (.error ((Status.decode status).elim .watching .reported))

/-- Whether a message breaks the watching off. -/
def breaksOff (k : Kind) : WatchMessage → Bool
  | .added o | .modified o | .deleted o => (k.decode o).any fun o => !(k.metadata o).isVersioned
  | .bookmark => false
  | .error status => (Status.decode status).any (·.code == Status.gone)

/-- The items of the messages of one request, up to the one that breaks the watching off. -/
def itemsOf (k : Kind) : List WatchMessage → List (FeedItem k)
  | [] => []
  | message :: rest =>
    (itemOf? k message).toList ++ if breaksOff k message then [] else itemsOf k rest

/-- Watches the objects of a complete listing. The answers are those left for the next
listing. -/
def watch (k : Kind) (answers : List ListAnswer) : List (List WatchMessage) → Feed k
  | [] => ⟨[], .quiet⟩
  | messages :: later =>
    let following :=
      if messages.any (breaksOff k) then
        ofListing (.read k answers) fun left => watch k left later
      else watch k answers later
    following.after (itemsOf k messages)

/-- **The feed of a kind** from the answers to its requests. -/
def read (k : Kind) (answers : List ListAnswer) (watches : List (List WatchMessage)) : Feed k :=
  ofListing (.read k answers) fun left => watch k left watches

/-! ## Targets -/

/-- Asks to watch while the server takes every request for one for a page. It uses up the
answers, and none of them is a message. -/
def watchInVain (k : Kind) (answers : List ListAnswer) : Feed k where
  items := (answers.takeWhile (!·.isCrash)).map fun _ => .error .watching
  ending := if answers.any ListAnswer.isCrash then .crashed else .quiet

/-- **The feed of a kind from a server**, where requests for a page and requests to watch
have these targets. -/
def under (k : Kind) (server : Server) (pages watches : Option Target) : Feed k :=
  let answers := server.pagesUnder pages
  match watches with
  | none => read k answers []
  | some target =>
    if target.asksToWatch then read k answers (server.watches target.path)
    else ofListing (.read k answers) (watchInVain k)

/-- Where the targets are as they should be, the server answers what it is asked. -/
theorem under_eq_read (k : Kind) (server : Server) {pages watches : Target}
    (hp : pages.asksToWatch = false) (hw : watches.asksToWatch = true) :
    under k server (some pages) (some watches) =
      read k (server.lists pages.path) (server.watches watches.path) := by
  simp [under, Server.pagesUnder, hp, hw]

/-! ## No feed is over -/

theorem ending_ofListing_ne_closed (l : Listing k) {next : List ListAnswer → Feed k}
    (h : ∀ left, (next left).ending ≠ .closed) : (ofListing l next).ending ≠ .closed := by
  unfold ofListing followed
  cases l.ending with
  | complete left => exact h left
  | stalled | crashed => nofun

theorem ending_watch_ne_closed (answers : List ListAnswer) (watches : List (List WatchMessage)) :
    (watch k answers watches).ending ≠ .closed := by
  induction watches generalizing answers with
  | nil => nofun
  | cons messages later ih =>
    unfold watch
    dsimp only
    split
    · exact ending_ofListing_ne_closed _ fun left => ih left
    · exact ih answers

/-- **The feed of a kind from a server is never over.** -/
theorem ending_under_ne_closed (server : Server) (pages watches : Option Target) :
    (under k server pages watches).ending ≠ .closed := by
  unfold under
  cases watches with
  | none => exact ending_ofListing_ne_closed _ fun left => ending_watch_ne_closed left []
  | some target =>
    dsimp only
    split
    · exact ending_ofListing_ne_closed _ fun left => ending_watch_ne_closed left _
    · refine ending_ofListing_ne_closed _ fun left => ?_
      unfold watchInVain
      dsimp only
      split <;> nofun

end Feed

end PodDirectory
