import PodDirectory.Settings
import PodDirectory.Cluster.Object

/-!
# What requests ask for

Every request has a target: a path, and behind a question mark a query, whose parts stand
between ampersands. A request for a page and a request to watch differ in their parts
alone: one of the parts of the latter is `watch=true`.

The objects of a kind are asked for under a path that has the name of the watched namespace
in it, as it is. Its characters have the meaning that they have in any target:

* a question mark ends the path, and what stands behind it belongs to the query;
* a number sign ends all that is sent, so that the rest of the query is lost;
* with a character that has no place in a target, or too many of them, no request is sent.

So a namespace can make a request one to watch, or keep it from being one. A path of plain
characters does neither (`Target.ofText?_append`), and so all is as it should be for a
well-formed namespace (`Settings.pageTarget?_eq`, `Settings.watchTarget?_eq`).
-/

namespace PodDirectory

/-- What arrives of the target of a request. -/
@[ext]
structure Target where
  path : String
  query : String
deriving DecidableEq, Repr, Inhabited

namespace Target

/-- The greatest number of bytes in the text of a target. -/
def maxSize : Nat := 65534

/-- Whether a character has a place in a path. Controls and blanks of ASCII have none, nor
have angle brackets and the grave accent. -/
def isPathChar (c : Char) : Bool :=
  0x20 < c.toNat && c.toNat != 0x7F && c != '<' && c != '>' && c != '\x60'

/-- Whether a character has a place in a query. Controls and blanks of ASCII have none, nor
have angle brackets and the double quote. -/
def isQueryChar (c : Char) : Bool :=
  0x20 < c.toNat && c.toNat != 0x7F && c != '<' && c != '>' && c != '"'

/-- Whether a character of a path stands for itself. -/
def isPlain (c : Char) : Bool := isPathChar c && c != '?' && c != '#'

/-- **The target that a text makes**, if a request can be sent there. -/
def ofText? (text : String) : Option Target :=
  let sent := text.toList.takeWhile (· != '#')
  let path := sent.takeWhile (· != '?')
  let query := (sent.dropWhile (· != '?')).drop 1
  if text.utf8ByteSize ≤ maxSize ∧ path.all isPathChar ∧ query.all isQueryChar then
    some ⟨String.ofList path, String.ofList query⟩
  else none

/-- The parts of a query. -/
def parts (query : List Char) : List (List Char) :=
  query.foldr (fun c parts => if c = '&' then [] :: parts else parts.modifyHead (c :: ·)) [[]]

/-- Whether a request with this target is one to watch. -/
def asksToWatch (t : Target) : Bool := (parts t.query.toList).contains "watch=true".toList

/-! ## Queries -/

/-- The query of a request for a page. -/
def pageQuery : String := "&limit=500"

/-- The query of a request to watch. A listing is of version 1. -/
def watchQuery : String :=
  "&watch=true&timeoutSeconds=290&allowWatchBookmarks=true&resourceVersion=1"

theorem asksToWatch_pageQuery (path : String) : asksToWatch ⟨path, pageQuery⟩ = false := by
  show (parts pageQuery.toList).contains "watch=true".toList = false
  decide +kernel

theorem asksToWatch_watchQuery (path : String) : asksToWatch ⟨path, watchQuery⟩ = true := by
  show (parts watchQuery.toList).contains "watch=true".toList = true
  decide +kernel

/-- **A path of plain characters arrives as it is**, and the query behind it too. -/
theorem ofText?_append {path query : String} (hp : path.toList.all isPlain = true)
    (hq : query.toList.all (fun c => isQueryChar c && c != '#') = true)
    (size : (path ++ "?" ++ query).utf8ByteSize ≤ maxSize) :
    ofText? (path ++ "?" ++ query) = some ⟨path, query⟩ := by
  simp only [isPlain, List.all_eq_true, Bool.and_eq_true] at hp hq
  have chars : (path ++ "?" ++ query).toList = path.toList ++ '?' :: query.toList := by
    simp [String.toList_append]
  have sent : (path.toList ++ '?' :: query.toList).takeWhile (· != '#') =
      path.toList ++ '?' :: query.toList := by
    rw [← List.append_nil (path.toList ++ _), List.takeWhile_append_of_pos]
    · rfl
    · intro c hc
      rcases List.mem_append.1 hc with hc | hc
      · exact (hp c hc).2
      · rcases List.mem_cons.1 hc with rfl | hc
        · rfl
        · exact (hq c hc).2
  have front : (path.toList ++ '?' :: query.toList).takeWhile (· != '?') = path.toList := by
    rw [List.takeWhile_append_of_pos fun c hc => (hp c hc).1.2]
    simp
  have back : (path.toList ++ '?' :: query.toList).dropWhile (· != '?') =
      '?' :: query.toList := by
    rw [List.dropWhile_append_of_pos fun c hc => (hp c hc).1.2]
    simp
  simp only [ofText?, chars, sent, front, back, List.drop_one, List.tail_cons,
    String.ofList_toList]
  rw [if_pos ⟨size, List.all_eq_true.2 fun c hc => (hp c hc).1.1,
    List.all_eq_true.2 fun c hc => (hq c hc).1⟩]

end Target

/-! ## Paths of kinds -/

namespace Kind

/-- The word for the objects of a kind in a path. -/
def resource : Kind → String
  | pod => "pods"
  | node => "nodes"
  | endpointSlice => "endpointslices"

/-- Whether the objects of a kind belong to namespaces. -/
def isNamespaced : Kind → Bool
  | node => false
  | _ => true

/-- The path of the interface that a kind belongs to. -/
def basePath (k : Kind) : String :=
  (if k.group = "" then "/api/" else "/apis/") ++ k.apiVersion

/-- The path under which the objects of a kind are listed and watched, all of them or
those of one namespace. -/
def path (k : Kind) (watchedNamespace : Option String) : String :=
  let scope :=
    match watchedNamespace with
    | some ns => if k.isNamespaced then "/namespaces/" ++ ns else ""
    | none => ""
  k.basePath ++ scope ++ "/" ++ k.resource

end Kind

/-! ## Targets under the settings -/

namespace Settings

/-- The kinds that are watched. -/
def watchedKinds (s : Settings) : List Kind :=
  [.pod, .node] ++ if s.watchEndpointSlices then [.endpointSlice] else []

/-- The path under which a kind is watched. -/
def path (s : Settings) (k : Kind) : String := k.path s.watchedNamespace

/-- The target of the requests for a page of a kind, if they can be sent. -/
def pageTarget? (s : Settings) (k : Kind) : Option Target :=
  Target.ofText? (s.path k ++ "?" ++ Target.pageQuery)

/-- The target of the requests to watch a kind, if they can be sent. -/
def watchTarget? (s : Settings) (k : Kind) : Option Target :=
  Target.ofText? (s.path k ++ "?" ++ Target.watchQuery)

/-- Whether the watched namespace, if there is one, is made of plain characters and leaves
room for the rest of a target. -/
def hasPlainNamespace (s : Settings) : Bool :=
  s.watchedNamespace.all fun ns => ns.toList.all Target.isPlain && ns.utf8ByteSize ≤ 65000

theorem path_isPlain (s : Settings) (k : Kind) (h : s.hasPlainNamespace = true) :
    (s.path k).toList.all Target.isPlain = true := by
  have base : k.basePath.toList.all Target.isPlain = true := by cases k <;> rfl
  have word : k.resource.toList.all Target.isPlain = true := by cases k <;> rfl
  have slash : "/".toList.all Target.isPlain = true := rfl
  have scope : "/namespaces/".toList.all Target.isPlain = true := rfl
  have all_append : ∀ a b : String, (a ++ b).toList.all Target.isPlain =
      (a.toList.all Target.isPlain && b.toList.all Target.isPlain) := fun a b => by
    rw [String.toList_append, List.all_append]
  cases hns : s.watchedNamespace with
  | none =>
    simp only [path, Kind.path, hns, all_append, base, word, slash]
    rfl
  | some ns =>
    simp only [hasPlainNamespace, hns, Option.all_some, Bool.and_eq_true] at h
    cases hk : k.isNamespaced with
    | false =>
      simp only [path, Kind.path, hns, hk, all_append, base, word, slash]
      rfl
    | true => simp only [path, Kind.path, hns, hk, if_true, all_append, base, word, slash, scope,
        h.1, Bool.and_self]

theorem utf8ByteSize_path_le (s : Settings) (k : Kind) (h : s.hasPlainNamespace = true) :
    (s.path k).utf8ByteSize ≤ 65100 := by
  have base : k.basePath.utf8ByteSize ≤ 40 := by cases k <;> decide +kernel
  have word : k.resource.utf8ByteSize ≤ 20 := by cases k <;> decide +kernel
  have slash : "/".utf8ByteSize = 1 := by decide +kernel
  have scope : "/namespaces/".utf8ByteSize = 12 := by decide +kernel
  cases hns : s.watchedNamespace with
  | none =>
    simp only [path, Kind.path, hns, String.utf8ByteSize_append, String.utf8ByteSize_empty]
    omega
  | some ns =>
    simp only [hasPlainNamespace, hns, Option.all_some, Bool.and_eq_true, decide_eq_true_eq] at h
    cases hk : k.isNamespaced with
    | false =>
      simp only [path, Kind.path, hns, hk, String.utf8ByteSize_append]
      simp only [Bool.false_eq_true, if_false, String.utf8ByteSize_empty]
      omega
    | true =>
      simp only [path, Kind.path, hns, hk, if_true, String.utf8ByteSize_append]
      omega

/-- Under a plain namespace the requests for a page arrive as they are. -/
theorem pageTarget?_eq (s : Settings) (k : Kind) (h : s.hasPlainNamespace = true) :
    s.pageTarget? k = some ⟨s.path k, Target.pageQuery⟩ := by
  refine Target.ofText?_append (s.path_isPlain k h) (by decide +kernel) ?_
  have := s.utf8ByteSize_path_le k h
  have rest : "?".utf8ByteSize + Target.pageQuery.utf8ByteSize ≤ 100 := by decide +kernel
  simp only [String.utf8ByteSize_append, Target.maxSize]
  omega

/-- Under a plain namespace the requests to watch arrive as they are. -/
theorem watchTarget?_eq (s : Settings) (k : Kind) (h : s.hasPlainNamespace = true) :
    s.watchTarget? k = some ⟨s.path k, Target.watchQuery⟩ := by
  refine Target.ofText?_append (s.path_isPlain k h) (by decide +kernel) ?_
  have := s.utf8ByteSize_path_le k h
  have rest : "?".utf8ByteSize + Target.watchQuery.utf8ByteSize ≤ 100 := by decide +kernel
  simp only [String.utf8ByteSize_append, Target.maxSize]
  omega

end Settings

end PodDirectory
