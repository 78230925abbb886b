import PodDirectory.Cluster.Status
import PodDirectory.Watch.Target

/-!
# The answers of a server

A server answers requests for a page of a listing and requests to watch, each by path, and
it tells the two apart by the query. Its answers to the requests of one path stand in a
queue: every request takes the next one, and the last one stays there for good. A path
without answers is unknown, and listing it always fails.

Not every answer is one that objects can be listed or watched by. A `FeedFailure` says what is
wrong with it. How that is worded is up to the library that sends the requests, so that the
wording is a parameter here; it is logged, and nothing goes by it.
-/

namespace PodDirectory

/-- The answer to a request for a page. -/
inductive ListAnswer where
  /-- A page, and whether there are more pages of the same listing. -/
  | page (items : List Json) (more : Bool)
  | failure
  /-- An answer that whoever reads it does not survive. -/
  | crash

/-- Whether nobody survives an answer. -/
def ListAnswer.isCrash : ListAnswer → Bool
  | crash => true
  | _ => false

/-- A message that arrives while a path is watched. -/
inductive WatchMessage where
  | added (object : Json)
  | modified (object : Json)
  | deleted (object : Json)
  | bookmark
  /-- An error, told by a status. -/
  | error (status : Json)

/-- What is wrong with an answer or a message. -/
inductive FeedFailure where
  /-- A page could not be had, or an item of it could not be decoded. -/
  | listing
  /-- What arrived while a path was watched could not be decoded. -/
  | watching
  /-- The server has told of an error. -/
  | reported (status : Status)
  /-- An object does not say its version. -/
  | unversioned
deriving DecidableEq, Repr

/-- What a server answers under each path. -/
structure Server where
  /-- The answers to requests for a page. -/
  lists : String → List ListAnswer
  /-- The messages that each request to watch receives. -/
  watches : String → List (List WatchMessage)
  /-- How failures are worded. -/
  wording : FeedFailure → String := fun _ => ""

namespace Server

/-- The answers to the requests for a page with a target. There are none if the requests
cannot be sent, and none if the server takes them for requests to watch. -/
def pagesUnder (server : Server) : Option Target → List ListAnswer
  | some target => if target.asksToWatch then [] else server.lists target.path
  | none => []

end Server

end PodDirectory
