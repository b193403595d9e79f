import YamlAudit.Document.Node
import YamlAudit.Document.Event

/-!
# Document — Compose

From events to the tree of the one document they describe.  The events are read one at a time by a
machine (`Progress.step`) whose state is the list of the collections still open; `compose` folds it
over the events.  So the first event that cannot be read decides, and no later event matters.

The rules: a node at depth `d` lies inside `d` open collections, and no node may lie deeper than the
limit; the limit is looked at before the kind of the event, except that the end of the innermost
open collection closes it at any depth.  Before the first document all events are skipped, and after
the node of a document all but the start of another, which is refused.  A mapping pairs its children
in order and drops a last one without partner.
-/

namespace YamlAudit

/-- Why events do not compose to one document. -/
inductive CompositionError where
  /-- A node begins deeper than the limit allows. -/
  | tooDeep (limit : Int)
  /-- No node can begin with this event, or the node it began has no end. -/
  | unexpected (event : EventKind)
  /-- A second document begins. -/
  | secondDocument
  /-- The events end right after the start of a document. -/
  | missingRoot
  deriving DecidableEq, Repr

/-- The two kinds of collection. -/
inductive Shape where
  | sequence
  | mapping
  deriving DecidableEq, Repr, Inhabited

/-- A collection that has begun and not ended; its children so far, the latest first. -/
structure OpenCollection where
  shape : Shape
  anchor : Option String
  start : Option Int
  children : List Node
  deriving Inhabited

namespace OpenCollection

/-- The event that began the collection. -/
def startEvent (c : OpenCollection) : EventKind :=
  match c.shape with
  | .sequence => .sequenceStart c.anchor
  | .mapping => .mappingStart c.anchor

/-- The event that ends the collection. -/
def endEvent (c : OpenCollection) : EventKind :=
  match c.shape with
  | .sequence => .sequenceEnd
  | .mapping => .mappingEnd

/-- Children two by two; an odd one at the end is left out. -/
def pairUp : List Node → List (Node × Node)
  | key :: value :: rest => (key, value) :: pairUp rest
  | _ => []

/-- A span is known when both of its ends are. -/
def spanOf (start stop : Option Int) : Option Span :=
  match start, stop with
  | some a, some b => some ⟨a, b⟩
  | _, _ => none

/-- The finished collection, whose end event ends at `stop`. -/
def close (c : OpenCollection) (stop : Option Int) : Node :=
  match c.shape with
  | .sequence => .sequence (spanOf c.start stop) c.anchor c.children.reverse
  | .mapping => .mapping (spanOf c.start stop) c.anchor (pairUp c.children.reverse)

end OpenCollection

/-- How far the reading of the events has come. -/
inductive Progress where
  /-- No document has begun. -/
  | before
  /-- A document has begun, its node has not. -/
  | opened
  /-- The node of the document is being read; the innermost open collection comes first. -/
  | inside (top : OpenCollection) (outer : List OpenCollection)
  /-- The node of the document is complete. -/
  | complete (root : Node)
  deriving Inhabited

namespace Progress

/-- A finished node goes into the innermost open collection; with none open it is the root. -/
def place (node : Node) : List OpenCollection → Progress
  | [] => .complete node
  | top :: outer => .inside { top with children := node :: top.children } outer

/-- A node begins inside the collections `outer`. -/
def begin (limit : Int) (outer : List OpenCollection) (event : Event) :
    Except CompositionError Progress :=
  if (outer.length : Int) > limit then .error (.tooDeep limit)
  else
    let span := OpenCollection.spanOf event.start event.stop
    match event.kind with
    | .scalar anchor value => .ok (place (.scalar span anchor value) outer)
    | .alias source => .ok (place (.alias span none source) outer)
    | .sequenceStart anchor => .ok (.inside ⟨.sequence, anchor, event.start, []⟩ outer)
    | .mappingStart anchor => .ok (.inside ⟨.mapping, anchor, event.start, []⟩ outer)
    | kind => .error (.unexpected kind)

/-- Reads one event. -/
def step (limit : Int) : Progress → Event → Except CompositionError Progress
  | .before, event => .ok (if event.kind = .documentStart then .opened else .before)
  | .opened, event => begin limit [] event
  | .inside top outer, event =>
    if event.kind = top.endEvent then .ok (place (top.close event.stop) outer)
    else begin limit (top :: outer) event
  | .complete root, event =>
    if event.kind = .documentStart then .error .secondDocument else .ok (.complete root)

/-- Reads the events in order, up to the first that cannot be read. -/
def run (limit : Int) : Progress → List Event → Except CompositionError Progress
  | p, [] => .ok p
  | p, event :: rest =>
    match step limit p event with
    | .ok q => run limit q rest
    | .error e => .error e

/-- What has been read when no event is left. -/
def finish : Progress → Except CompositionError (Option Node)
  | .before => .ok none
  | .opened => .error .missingRoot
  | .inside top _ => .error (.unexpected top.startEvent)
  | .complete root => .ok (some root)

end Progress

/-- The tree of the one document among the events, or nothing if no document begins. -/
def compose (limit : Int) (events : List Event) : Except CompositionError (Option Node) :=
  match Progress.run limit .before (events.filter fun e => !e.kind.isStream) with
  | .ok p => p.finish
  | .error e => .error e

end YamlAudit
