import PodDirectory.Proofs.AfterListing
import PodDirectory.Proofs.KindPaths
import PodDirectory.Proofs.RunSync

/-!
# Failed attempts at a listing leave no trace

An attempt at a listing that fails after some pages has passed the objects of these pages on. The
next attempt starts over, and when one of them is completed, all is as if the failed ones had
never been made: `withoutFailed` takes them out of a queue of answers, and a run against a server
without them ends with the same monitor (`Run.against_withoutFailed`).

Failed attempts that no completed one follows stay where they are. What they have passed on is
not taken back.
-/

namespace PodDirectory

variable {k : Kind}

/-! ## Events -/

/-- **Events without failed listings**: listings that were broken off can be left out where a
complete one follows. -/
inductive SkipsFailed : List (WatchEvent k) → List (WatchEvent k) → Prop where
  | nil : SkipsFailed [] []
  | keep (e : WatchEvent k) {events rest : List (WatchEvent k)} (h : SkipsFailed events rest) :
    SkipsFailed (e :: events) (e :: rest)
  | skip {failed events rest : List (WatchEvent k)} (objects : List k.Object)
    (hfailed : ∀ e ∈ failed, e.IsListing) (h : SkipsFailed events rest) :
    SkipsFailed (failed ++ completeListing objects ++ events) (completeListing objects ++ rest)

namespace SkipsFailed

theorem append_left (earlier : List (WatchEvent k)) {events rest : List (WatchEvent k)}
    (h : SkipsFailed events rest) : SkipsFailed (earlier ++ events) (earlier ++ rest) := by
  induction earlier with
  | nil => exact h
  | cons e earlier ih => exact .keep e ih

theorem refl (events : List (WatchEvent k)) : SkipsFailed events events := by
  simpa using append_left events .nil

/-- **Failed listings that are left out make no difference** to what a monitor has of the kind
in the end. -/
theorem sameOn {events rest : List (WatchEvent k)} (h : SkipsFailed events rest)
    {m m' : Monitor} (hsame : m.SameOn k m') (hm : m.Sound k) (htidy : Tidy k events) :
    (m.watchAll k events).1.SameOn k (m'.watchAll k rest).1 := by
  induction h generalizing m m' with
  | nil => exact hsame
  | @keep e events rest h ih =>
    have hevents : Tidy k ([e] ++ events) := htidy
    obtain ⟨hfirst, hrest⟩ := hevents.append
    exact ih (hsame.watch e).1 (hm.watchAll hfirst) hrest
  | @skip failed events rest objects hfailed h ih =>
    obtain ⟨hlisting, hrest⟩ := htidy.append
    rw [m.watchAll_append (failed ++ completeListing objects), m'.watchAll_append]
    have hcomplete := hsame.watchAll (completeListing objects)
    exact ih ((Monitor.sameOn_completeListing hm hfailed hlisting).trans hcomplete)
      (hm.watchAll hlisting) hrest

end SkipsFailed

/-! ## Queues of answers -/

/-- **A queue without the failed attempts that a completed one follows.** The pages are those
of the attempt under way. -/
def withoutFailed (k : Kind) (pages : List ListAnswer) : List ListAnswer → List ListAnswer
  | [] => pages
  | answer :: rest =>
    match answer.read k with
    | .crashed => pages ++ answer :: rest
    | .failed => if completes k rest then withoutFailed k [] rest else pages ++ answer :: rest
    | .objects _ true => withoutFailed k (pages ++ [answer]) rest
    | .objects _ false => pages ++ answer :: withoutFailed k [] rest

/-- The objects of an answer that is read as a page. -/
def ListAnswer.objects (k : Kind) (answer : ListAnswer) : List k.Object :=
  match answer.read k with
  | .objects objects _ => objects
  | .failed | .crashed => []

/-- Where no attempt is completed, all of them stay. -/
theorem withoutFailed_of_not_completes {pages answers : List ListAnswer}
    (h : completes k answers = false) : withoutFailed k pages answers = pages ++ answers := by
  induction answers generalizing pages with
  | nil => simp [withoutFailed]
  | cons answer rest ih =>
    unfold withoutFailed
    unfold completes at h
    cases hread : answer.read k with
    | crashed => rfl
    | failed =>
      simp only [hread] at h
      simp [h]
    | objects objects more =>
      cases more with
      | true =>
        simp only [hread] at h
        simp [ih h]
      | false => simp [hread] at h

/-- Nothing is left out of a queue but what stands before a completed attempt. -/
theorem withoutFailed_ne_nil {pages answers : List ListAnswer} (h : pages ++ answers ≠ []) :
    withoutFailed k pages answers ≠ [] := by
  induction answers generalizing pages with
  | nil => simpa [withoutFailed] using h
  | cons answer rest ih =>
    unfold withoutFailed
    cases hread : answer.read k with
    | crashed => simp
    | failed =>
      dsimp only
      split
      · next hrest =>
        refine ih fun hempty => ?_
        rw [show rest = [] from hempty] at hrest
        cases hrest
      · simp
    | objects objects more =>
      cases more with
      | true => exact ih (by simp)
      | false => simp

/-- No crash is left out, and none is added. -/
theorem any_isCrash_withoutFailed {pages answers : List ListAnswer}
    (hpages : pages.any ListAnswer.isCrash = false) :
    (withoutFailed k pages answers).any ListAnswer.isCrash = answers.any ListAnswer.isCrash := by
  induction answers generalizing pages with
  | nil => simpa [withoutFailed] using hpages
  | cons answer rest ih =>
    have hcrash : answer.read k ≠ .crashed → answer.isCrash = false := by
      cases answer with
      | page | failure => exact fun _ => rfl
      | crash => exact fun h => absurd rfl h
    unfold withoutFailed
    cases hread : answer.read k with
    | crashed => simp only [List.any_append, hpages, Bool.false_or]
    | failed =>
      dsimp only
      split
      · rw [ih rfl, List.any_cons, hcrash (by simp [hread]), Bool.false_or]
      · simp only [List.any_append, hpages, Bool.false_or]
    | objects objects more =>
      have hanswer := hcrash (by simp [hread])
      cases more with
      | true =>
        dsimp only
        rw [ih (by simp [hpages, hanswer]), List.any_cons, hanswer, Bool.false_or]
      | false => rw [List.any_append, hpages, Bool.false_or, List.any_cons, List.any_cons, ih rfl]

/-- What is left for the next listing comes to the same, with the failed attempts left out
before or afterwards. -/
theorem withoutFailed_leftAfter {answer : ListAnswer} {objects : List k.Object}
    (h : answer.read k = .objects objects false) (rest : List ListAnswer) :
    withoutFailed k [] (answer.leftAfter rest)
      = answer.leftAfter (withoutFailed k [] rest) := by
  cases rest with
  | nil => simp [ListAnswer.leftAfter, withoutFailed, h]
  | cons next rest =>
    have hne : withoutFailed k [] (next :: rest) ≠ [] := withoutFailed_ne_nil (by simp)
    cases hqueue : withoutFailed k [] (next :: rest) with
    | nil => exact absurd hqueue hne
    | cons first others => exact hqueue

/-- The pages of an attempt are listed before what follows them. -/
theorem Listing.read_append {pages : List ListAnswer}
    (hpages : ∀ page ∈ pages, ∃ objects, page.read k = .objects objects true)
    (answers : List ListAnswer) :
    Listing.read k (pages ++ answers)
      = (Listing.read k answers).after (listedItems (pages.flatMap (·.objects k))) := by
  induction pages with
  | nil => rfl
  | cons page pages ih =>
    obtain ⟨objects, hread⟩ := hpages page List.mem_cons_self
    have hrest := ih fun page hmem => hpages page (List.mem_cons_of_mem _ hmem)
    have hobjects : page.objects k = objects := by simp only [ListAnswer.objects, hread]
    simp only [List.cons_append, Listing.read, hread, hrest, Listing.after, List.flatMap_cons,
      hobjects, listedItems, List.map_append, List.append_assoc]

/-! ## Listings -/

namespace Listing

/-- **A listing that is complete, and what it is without its failed attempts**: both end with the
events of one complete listing, and these are all the events of the second one. What is left for
the next listing is the same, apart from failed attempts. -/
structure DropsFailed (listing quiet : Listing k) (failed : List (WatchEvent k))
    (objects : List k.Object) (left : List ListAnswer) : Prop where
  isListing : ∀ e ∈ failed, e.IsListing
  events : .listingStarted :: listing.events = failed ++ completeListing objects
  ending : listing.ending = .complete left
  events_quiet : .listingStarted :: quiet.events = completeListing objects
  ending_quiet : quiet.ending = .complete (withoutFailed k [] left)

/-- An attempt that has found some objects and failed is one failed attempt more. -/
theorem DropsFailed.after_failed {listing quiet : Listing k} {failed : List (WatchEvent k)}
    {objects : List k.Object} {left : List ListAnswer}
    (h : listing.DropsFailed quiet failed objects left) (found : List k.Object) :
    ((listing.after [.error .listing, .ok .listingStarted]).after
      (listedItems found)).DropsFailed quiet
      (.listingStarted :: found.map .listed ++ failed) objects left where
  isListing e he := by
    rcases List.mem_append.mp he with he | he
    · rcases List.mem_cons.mp he with rfl | he
      · trivial
      · obtain ⟨o, -, rfl⟩ := List.mem_map.mp he
        trivial
    · exact h.isListing e he
  events := by simpa using h.events
  ending := h.ending
  events_quiet := h.events_quiet
  ending_quiet := h.ending_quiet

/-- An attempt that has found some objects and reads a last page is the complete one. -/
theorem dropsFailed_of_last {answer : ListAnswer} {objects : List k.Object}
    (h : answer.read k = .objects objects false) (found : List k.Object)
    (rest : List ListAnswer) :
    ((read k (answer :: rest)).after (listedItems found)).DropsFailed
      ((read k (answer :: withoutFailed k [] rest)).after (listedItems found)) []
      (found ++ objects) (answer.leftAfter rest) where
  isListing := List.forall_mem_nil _
  events := by simp [read, h, completeListing]
  ending := by simp [read, h]
  events_quiet := by simp [read, h, completeListing]
  ending_quiet := by simp [read, h, withoutFailed_leftAfter h]

/-- **A listing that is complete** is the same without the failed attempts, apart from what these
have passed on. -/
theorem exists_dropsFailed {pages answers : List ListAnswer}
    (hpages : ∀ page ∈ pages, ∃ objects, page.read k = .objects objects true)
    (h : completes k answers = true) :
    ∃ failed objects left, (read k (pages ++ answers)).DropsFailed
      (read k (withoutFailed k pages answers)) failed objects left := by
  induction answers generalizing pages with
  | nil => cases h
  | cons answer rest ih =>
    cases hread : answer.read k with
    | crashed => simp [completes, hread] at h
    | failed =>
      have hrest : completes k rest = true := by simpa [completes, hread] using h
      obtain ⟨failed, objects, left, hdrops⟩ := ih (List.forall_mem_nil _) hrest
      have hqueue : withoutFailed k pages (answer :: rest) = withoutFailed k [] rest := by
        simp [withoutFailed, hread, hrest]
      have hlisting : read k (answer :: rest)
          = (read k rest).after [.error .listing, .ok .listingStarted] := by
        simp only [read, hread]
      -- the pages so far, and the failed attempts after them, are left out together
      rw [hqueue, read_append hpages, hlisting]
      exact ⟨_, objects, left, hdrops.after_failed _⟩
    | objects objects more =>
      cases more with
      | true =>
        have hrest : completes k rest = true := by simpa [completes, hread] using h
        have hpages' : ∀ page ∈ pages ++ [answer], ∃ objects,
            page.read k = .objects objects true :=
          List.forall_mem_append.mpr ⟨hpages, List.forall_mem_singleton.mpr ⟨objects, hread⟩⟩
        have hqueue : withoutFailed k pages (answer :: rest)
            = withoutFailed k (pages ++ [answer]) rest := by
          simp only [withoutFailed, hread]
        rw [hqueue, List.append_cons]
        exact ih hpages' hrest
      | false =>
        have hqueue : withoutFailed k pages (answer :: rest)
            = pages ++ answer :: withoutFailed k [] rest := by
          simp only [withoutFailed, hread]
        rw [hqueue, read_append hpages, read_append hpages]
        exact ⟨[], _, _, dropsFailed_of_last hread _ rest⟩

end Listing

/-! ## Feeds -/

/-- **A feed without failed listings**: its events skip some, and it ends in the same way. -/
structure Feed.Skips (f f' : Feed k) : Prop where
  events : SkipsFailed f.events f'.events
  ending : f.ending = f'.ending

namespace Feed

theorem Skips.refl (f : Feed k) : f.Skips f := ⟨.refl _, rfl⟩

theorem Skips.after {f f' : Feed k} (h : f.Skips f') (earlier : List (FeedItem k)) :
    (f.after earlier).Skips (f'.after earlier) where
  events := by
    rw [events_after, events_after]
    exact h.events.append_left _
  ending := h.ending

/-- A complete listing is fed before what follows it, which decides about the end. -/
theorem ofListing_of_complete {l : Listing k} {left : List ListAnswer}
    (h : l.ending = .complete left) (next : List ListAnswer → Feed k) :
    (ofListing l next).events = (.listingStarted :: l.events) ++ (next left).events ∧
      (ofListing l next).ending = (next left).ending := by
  unfold ofListing followed
  simp [h]

/-- What is fed from a queue is fed from the queue without failed attempts, if this is so of
what follows the listing. -/
theorem skips_ofListing (answers : List ListAnswer) {next next' : List ListAnswer → Feed k}
    (h : ∀ left, (next left).Skips (next' (withoutFailed k [] left))) :
    (ofListing (.read k answers) next).Skips
      (ofListing (.read k (withoutFailed k [] answers)) next') := by
  cases hcompletes : completes k answers with
  | true =>
    obtain ⟨failed, objects, left, hdrops⟩ :=
      Listing.exists_dropsFailed (List.forall_mem_nil _) hcompletes
    rw [List.nil_append] at hdrops
    obtain ⟨hevents, hending⟩ := ofListing_of_complete hdrops.ending next
    obtain ⟨hquiet, hending'⟩ := ofListing_of_complete hdrops.ending_quiet next'
    rw [hdrops.events] at hevents
    rw [hdrops.events_quiet] at hquiet
    refine ⟨?_, (hending.trans (h left).ending).trans hending'.symm⟩
    rw [hevents, hquiet]
    exact .skip objects hdrops.isListing (h left).events
  | false =>
    rw [withoutFailed_of_not_completes hcompletes, List.nil_append]
    unfold ofListing followed
    cases hending : (Listing.read k answers).ending with
    | complete left => simp [Listing.completes_of_ending hending] at hcompletes
    | stalled => exact .refl _
    | crashed => exact .refl _

/-- Watching goes on in the same way with the failed attempts left out of what is listed
again. -/
theorem skips_watch (answers : List ListAnswer) (watches : List (List WatchMessage)) :
    (watch k answers watches).Skips (watch k (withoutFailed k [] answers) watches) := by
  induction watches generalizing answers with
  | nil => exact .refl _
  | cons messages later ih =>
    unfold watch
    dsimp only
    split
    · exact (skips_ofListing answers fun left => ih left).after _
    · exact (ih answers).after _

/-- Watching in vain brings failures only. -/
theorem events_watchInVain (answers : List ListAnswer) : (watchInVain k answers).events = [] := by
  unfold watchInVain
  induction answers.takeWhile (!·.isCrash) with
  | nil => rfl
  | cons answer rest ih => exact ih

/-- **The feed of a kind goes on in the same way** against a server that gives the same
messages, and the same answers without the failed attempts. -/
theorem skips_under {server server' : Server} {pages : Option Target} (watches : Option Target)
    (hpages : server'.pagesUnder pages = withoutFailed k [] (server.pagesUnder pages))
    (hwatches : server'.watches = server.watches) :
    (under k server pages watches).Skips (under k server' pages watches) := by
  unfold under
  rw [hpages, hwatches]
  cases watches with
  | none => exact skips_ofListing _ fun left => skips_watch left []
  | some target =>
    dsimp only
    split
    · exact skips_ofListing _ fun left => skips_watch left _
    · refine skips_ofListing _ fun left => ⟨?_, ?_⟩
      · rw [events_watchInVain, events_watchInVain]
        exact .nil
      · show (if left.any _ then FeedEnd.crashed else .quiet) = if _ then .crashed else .quiet
        rw [any_isCrash_withoutFailed rfl]

end Feed

/-! ## Runs -/

/-- The kind whose pages are asked for under a path, if it is watched. -/
def Settings.kindUnder? (settings : Settings) (path : String) : Option Kind :=
  settings.watchedKinds.find? fun k => (settings.pageTarget? k).any (·.path = path)

theorem Settings.kindUnder?_path {settings : Settings} {target : Target}
    (hk : k ∈ settings.watchedKinds) (htarget : settings.pageTarget? k = some target) :
    settings.kindUnder? target.path = some k := by
  have hsome : (settings.kindUnder? target.path).isSome :=
    List.find?_isSome.mpr ⟨k, hk, by simp [htarget]⟩
  obtain ⟨j, hj⟩ := Option.isSome_iff_exists.mp hsome
  have hpath := List.find?_some hj
  obtain ⟨target', htarget', heq⟩ := (Option.any_eq_true _ _).mp hpath
  rw [hj, settings.kind_eq_of_path_eq htarget' htarget (of_decide_eq_true heq)]

/-- **A server without the failed attempts that a completed one follows**, for whoever lists the
kinds that the settings name. -/
def Server.withoutFailed (server : Server) (settings : Settings) : Server where
  lists path :=
    match settings.kindUnder? path with
    | some k => PodDirectory.withoutFailed k [] (server.lists path)
    | none => server.lists path
  watches := server.watches
  wording := server.wording

/-- Whoever lists a kind is given its answers without the failed attempts. -/
theorem Server.pagesUnder_withoutFailed (server : Server) {settings : Settings}
    (hk : k ∈ settings.watchedKinds) :
    (server.withoutFailed settings).pagesUnder (settings.pageTarget? k)
      = PodDirectory.withoutFailed k [] (server.pagesUnder (settings.pageTarget? k)) := by
  unfold pagesUnder
  cases htarget : settings.pageTarget? k with
  | none => rfl
  | some target =>
    dsimp only
    split
    · rfl
    · unfold withoutFailed
      dsimp only
      rw [settings.kindUnder?_path hk htarget]

namespace Run

variable {settings : Settings} {server : Server}

/-- The feed of a watched kind goes on in the same way without the failed attempts. -/
theorem skips_feed (settings : Settings) (server : Server) (hk : k ∈ settings.watchedKinds) :
    (feed settings server k).Skips (feed settings (server.withoutFailed settings) k) :=
  Feed.skips_under _ (server.pagesUnder_withoutFailed hk) rfl

/-- The watchers crash with the failed attempts or without them. -/
theorem crashes_withoutFailed (settings : Settings) (server : Server) :
    crashes settings (server.withoutFailed settings) = crashes settings server := by
  unfold crashes
  rw [Bool.eq_iff_iff, List.any_eq_true, List.any_eq_true]
  refine exists_congr fun k => and_congr_right fun hk => ?_
  rw [(skips_feed settings server hk).ending]

/-- **What a run has fed the trackers with comes to the same without the failed attempts.** -/
theorem fed_withoutFailed (htidy : Tidy .pod (feed settings server .pod).events) :
    fed settings (server.withoutFailed settings) = fed settings server := by
  have hsame : ∀ k,
      (fed settings server).SameOn k (fed settings (server.withoutFailed settings)) := by
    intro k
    have hskips : SkipsFailed (feedsOf settings server k)
        (feedsOf settings (server.withoutFailed settings) k) := by
      unfold feedsOf
      split
      · next hk => exact (skips_feed settings server hk).events
      · exact .nil
    have hsound : (start settings).Sound k := by
      cases k with
      | pod => exact agrees_new .empty false
      | node | endpointSlice => trivial
    have hfeed : Tidy k (feedsOf settings server k) := by
      cases k with
      | pod =>
        unfold feedsOf
        rw [if_pos (settings.mem_watchedKinds rfl)]
        exact htidy
      | node | endpointSlice => trivial
    exact ((sameOn_fed settings server k).trans
      (hskips.sameOn (.refl k _) hsound hfeed)).trans
      (sameOn_fed settings (server.withoutFailed settings) k).symm
  obtain ⟨hrequired, hsynced, hwaiters⟩ := fed_frame settings server
  obtain ⟨hrequired', hsynced', hwaiters'⟩ := fed_frame settings (server.withoutFailed settings)
  exact Monitor.eq_of_sameOn (fun k => (hsame k).symm) (hrequired'.trans hrequired.symm)
    (hsynced'.trans hsynced.symm) (hwaiters'.trans hwaiters.symm)

/-- **Failed attempts at a listing leave no trace**, where a completed one follows: a run without
them comes to the same. For pods this needs namespaces without dots and, in each complete
listing, different refs. -/
theorem against_withoutFailed (hcrash : crashes settings server = false)
    (hdot : ∀ e ∈ (feed settings server .pod).events, e.HasDotlessNs)
    (hdistinct : ∀ before pods after,
      (feed settings server .pod).events = before ++ listingOf pods ++ after →
      ((identified pods).map Prod.fst).Nodup) :
    ∃ r r', against settings server = .ok r ∧
      against settings (server.withoutFailed settings) = .ok r' ∧
      r'.monitor = r.monitor ∧ r'.sync = r.sync := by
  obtain ⟨r, hr, -, hsync, hmonitor⟩ := exists_against_eq_ok hcrash
  obtain ⟨r', hr', -, hsync', hmonitor'⟩ :=
    exists_against_eq_ok ((crashes_withoutFailed settings server).trans hcrash)
  rw [fed_withoutFailed ⟨hdot, hdistinct⟩] at hsync' hmonitor'
  have hsame : r'.sync = r.sync := hsync'.trans hsync.symm
  refine ⟨r, r', hr, hr', ?_, hsame⟩
  rw [hmonitor', hmonitor, hsame]

/-- Where all pods that are ever listed have different refs, those of each listing have. -/
theorem nodup_of_all_listed {events : List (WatchEvent .pod)}
    (h : ((identified (events.filterMap WatchEvent.object?)).map Prod.fst).Nodup)
    {before after : List (WatchEvent .pod)} {pods : List Pod}
    (hevents : events = before ++ listingOf pods ++ after) :
    ((identified pods).map Prod.fst).Nodup := by
  have hpods : (listingOf pods).filterMap WatchEvent.object? = pods := by
    rw [listingOf, List.filterMap_cons_none rfl, List.filterMap_append, List.filterMap_map]
    exact (List.append_nil _).trans List.filterMap_some
  have hsublist : pods.Sublist (events.filterMap WatchEvent.object?) := by
    rw [hevents, List.append_assoc, List.filterMap_append, List.filterMap_append, hpods]
    exact (List.sublist_append_left _ _).trans (List.sublist_append_right _ _)
  exact h.sublist ((hsublist.filterMap _).map _)

/-- Pods are listed at the second attempt, and when the past is gone, at the second attempt
again. Each failed attempt has passed on a pod that has vanished since. -/
theorem against_withoutFailed_of_retries :
    let pod (name address : String) : Json :=
      .obj [("metadata", .obj [("name", .str name), ("namespace", .str "c")]),
        ("status", .obj [("podIP", .str address)])]
    let gone : Json := .obj [("status", .str "Failure"), ("code", .int 410)]
    let answers : List ListAnswer := [.page [pod "a" "10.0.0.1"] true, .failure,
      .page [pod "b" "10.0.0.1"] false, .page [pod "c" "10.0.0.2"] true, .page [.null] true,
      .page [pod "d" "10.0.0.2"] false]
    let settings : Settings := {}
    let server : Server := {
      lists := fun path =>
        if path = "/api/v1/pods" then answers
        else if path = "/api/v1/nodes" then [.page [] false]
        else []
      watches := fun path => if path = "/api/v1/pods" then [[.error gone]] else [] }
    crashes settings server = false ∧
      (∀ e ∈ (feed settings server .pod).events, e.HasDotlessNs) ∧
      (withoutFailed .pod [] answers).length = 2 ∧
      ∃ r r', against settings server = .ok r ∧
        against settings (server.withoutFailed settings) = .ok r' ∧
        r'.monitor = r.monitor ∧ r'.sync = r.sync := by
  intro pod gone answers settings server
  have hns : settings.hasPlainNamespace = true := rfl
  have hcrash : crashes settings server = false := by
    simp only [crashes, feed_eq_read hns]
    decide +kernel
  have hdot : ∀ e ∈ (feed settings server .pod).events, e.HasDotlessNs := by
    rw [feed_eq_read hns]
    decide +kernel
  have hrefs : ((identified ((feed settings server .pod).events.filterMap
      WatchEvent.object?)).map Prod.fst).Nodup := by
    rw [feed_eq_read hns]
    decide +kernel
  exact ⟨hcrash, hdot, by decide +kernel,
    against_withoutFailed hcrash hdot fun _ _ _ => nodup_of_all_listed hrefs⟩

end Run

end PodDirectory
