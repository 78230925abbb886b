import PodDirectory.Log.Event
import PodDirectory.Text.Quoted

/-!
# Log lines

A log line has a level, a message and named fields. `LogEvent.line` says how each event is
written. Where the order in which events came about means nothing, lines are put into the
order of their compact form.
-/

namespace PodDirectory

/-- How much a log line matters. -/
inductive LogLevel where
  | debug
  | info
  | warn
deriving DecidableEq, Repr

/-- The word for a level. -/
def LogLevel.text : LogLevel → String
  | debug => "DEBUG"
  | info => "INFO"
  | warn => "WARN"

/-- The value of a field of a log line. -/
inductive LogValue where
  | text (s : String)
  | number (n : Int)
  | flag (b : Bool)
deriving DecidableEq, Repr

/-- A line of the log. -/
structure LogLine where
  level : LogLevel
  message : String
  fields : List (String × LogValue) := []
deriving DecidableEq, Repr

/-! ## How events are written -/

namespace LogEvent

/-- The fields that tell which pod or slice a line is about. -/
def placed (name ns : String) : List (String × LogValue) :=
  [("name", .text name), ("ns", .text ns)]

/-- A line about a node. Its lists are quoted. -/
def nodeLine (message : String) (node : NodeRecord) : LogLine :=
  ⟨.info, message,
    [("name", .text node.name), ("ip", .text (Text.quoteList node.addresses)),
      ("pod_cidr", .text (Text.quoteList node.podCIDRs))]⟩

/-- The fields of a line about a kind as such. -/
def about (kind : Kind) : List (String × LogValue) := [("kind", .text kind.text)]

/-- **The line that an event is logged as.** -/
def line : LogEvent → LogLine
  | kindMarked kind => ⟨.debug, "initial listing complete", about kind⟩
  | podAdded r =>
    ⟨.info, "pod added", placed r.key.name r.key.ns ++
      [("ip", .text r.address), ("host_ip", .text (r.hostAddress.getD "")),
        ("node", .text (r.nodeName.getD ""))]⟩
  | podUpdated old new =>
    ⟨.debug, "pod updated", placed old.key.name old.key.ns ++
      [("old_ip", .text old.address), ("ip", .text new.address),
        ("spec_changed", .flag (old.snapshot.spec ≠ new.snapshot.spec))]⟩
  | podDeleted r =>
    ⟨.info, "pod deleted", placed r.key.name r.key.ns ++ [("ip", .text r.address)]⟩
  | addressTakenOver address previous current =>
    ⟨.debug, "address taken over by another pod",
      [("ip", .text address), ("previous", .text previous.text), ("current", .text current.text)]⟩
  | nodeListed node => nodeLine "node listed" node
  | nodeAdded node => nodeLine "node added" node
  | nodeUpdated node => nodeLine "node updated" node
  | nodeDeleted node => nodeLine "node deleted" node
  | sliceAdded r =>
    ⟨.debug, "endpoint slice added",
      placed r.name r.ns ++ [("addresses", .number r.addressCount)]⟩
  | sliceDeleted r => ⟨.debug, "endpoint slice deleted", placed r.name r.ns⟩
  | updateDropped old new =>
    ⟨.warn, "Dropping update: " ++ (Fault.kindMismatch old new).message, []⟩
  | objectDropped kind defect =>
    ⟨.warn, "Dropping event: " ++ (defect.fault kind).message, about kind⟩
  | listingStarted kind => ⟨.debug, "listing started", about kind⟩
  | vanished kind ref =>
    ⟨.debug, "missing from re-list, deleting", about kind ++ [("object", .text (ref.text kind))]⟩
  | firstListing kind objects =>
    ⟨.info, "Initial listing complete", about kind ++ [("objects", .number objects)]⟩
  | syncComplete pods => ⟨.info, "Initial sync complete", [("pods", .number pods.toInt)]⟩
  | syncFailed pods =>
    ⟨.warn, "Initial sync failed: " ++ Fault.initialSyncCancelled.message,
      [("pods", .number pods.toInt)]⟩
  | watchersStarted watchedNamespace watchers =>
    ⟨.info, "Watchers started",
      [("namespace", .text (watchedNamespace.getD "*")), ("watchers", .number watchers)]⟩
  | watchFailed wording => ⟨.warn, "Watch error: " ++ wording, []⟩
  | feedOver objects => ⟨.debug, "watch stream ended", [("objects", .number objects)]⟩
  | watcherStopped => ⟨.warn, "A watcher stopped unexpectedly", []⟩

end LogEvent

/-! ## The order of lines -/

namespace LogLine

/-- A character within the quotes of a compact text. Only quotes, backslashes and the
controls below the space are escaped. -/
def escapeChar (c : Char) : List Char :=
  if c = '"' then ['\\', '"']
  else if c = '\\' then ['\\', '\\']
  else if c = '\n' then ['\\', 'n']
  else if c = '\r' then ['\\', 'r']
  else if c = '\t' then ['\\', 't']
  else if c = '\x08' then ['\\', 'b']
  else if c = '\x0c' then ['\\', 'f']
  else if c.toNat < 0x20 then
    ['\\', 'u', '0', '0', Nat.digitChar (c.toNat / 16), Nat.digitChar (c.toNat % 16)]
  else [c]

/-- A text in its compact form. -/
def compactText (s : String) : String :=
  String.ofList ('"' :: s.toList.flatMap escapeChar ++ ['"'])

/-- The value of a field in its compact form. -/
def compactValue : LogValue → String
  | .text s => compactText s
  | .number n => toString n
  | .flag true => "true"
  | .flag false => "false"

/-- The fields ordered by their names. -/
def sortedFields (l : LogLine) : List (String × LogValue) :=
  l.fields.mergeSort fun a b => a.1 ≤ b.1

/-- The compact form of a line: a list of level, message and fields, as JSON without
spaces and with the fields ordered by name. -/
def compact (l : LogLine) : String :=
  let fields := l.sortedFields.map fun f => compactText f.1 ++ ":" ++ compactValue f.2
  "[" ++ compactText l.level.text ++ "," ++ compactText l.message ++ ",\x7b" ++
    ",".intercalate fields ++ "\x7d]"

/-- Lines in the order of their compact forms, character by character. -/
def sort (lines : List LogLine) : List LogLine :=
  let keyed := lines.map fun l => (l.compact, l)
  (keyed.mergeSort fun a b => a.1 ≤ b.1).map Prod.snd

/-- Sorting loses no line and adds none. -/
theorem sort_perm (lines : List LogLine) : (sort lines).Perm lines := by
  refine ((List.mergeSort_perm (lines.map fun l => (l.compact, l)) _).map Prod.snd).trans ?_
  rw [List.map_map]
  exact List.Perm.of_eq (List.map_id lines)

end LogLine

end PodDirectory
