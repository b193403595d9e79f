import YamlAudit.Yaml.Grammar
import YamlAudit.Yaml.ScalarType

/-!
# Yaml — Graph

A document with its aliases resolved: an alias is another reference to the node that carried its name
last, so nodes may be shared and may contain themselves.  Nodes are referred to by number, in the
order in which they begin.  Every node has its tag, inferred where none is written.
-/

namespace YamlAudit.Yaml

/-- The tags of collections without a tag of their own. -/
def sequenceTag : String := "tag:yaml.org,2002:seq"

/-- The tag of mappings. -/
def mappingTag : String := "tag:yaml.org,2002:map"

/-- What is in a node.  Of a mapping whose merge keys were resolved, `merged` holds the pairs that
came by them. -/
inductive NodeContent where
  | scalar (value : String)
  | sequence (items : List Nat)
  | mapping (pairs : List (Nat × Nat)) (merged : Option (List (Nat × Nat)))
  deriving Inhabited

/-- The kind of a node. -/
def NodeContent.kind : NodeContent → NodeKind
  | scalar _ => .scalar
  | sequence _ => .sequence
  | mapping .. => .mapping

/-- A node, its tag, and where it begins. -/
structure GraphNode where
  tag : String
  start : Mark
  content : NodeContent
  deriving Inhabited

/-- The nodes of documents. -/
structure Graph where
  nodes : Array GraphNode
  deriving Inhabited

namespace Graph

/-- No nodes. -/
def empty : Graph := ⟨#[]⟩

/-- The node with a number. -/
def get (g : Graph) (n : Nat) : GraphNode := g.nodes.getD n default

/-- Replaces a node. -/
def put (g : Graph) (n : Nat) (node : GraphNode) : Graph := ⟨g.nodes.setIfInBounds n node⟩

/-- Gives a node another content. -/
def setContent (g : Graph) (n : Nat) (content : NodeContent) : Graph :=
  g.put n { g.get n with content }

/-- Gives a node another tag. -/
def setTag (g : Graph) (n : Nat) (tag : String) : Graph := g.put n { g.get n with tag }

end Graph

/-- A collection that has begun and not ended: its number and its children, the latest first. -/
structure OpenNode where
  number : Nat
  children : List Nat

/-- A graph while it is being put together. -/
structure Assembly where
  graph : Graph
  anchors : List (String × Nat)
  /-- The open collections, the innermost first. -/
  stack : List OpenNode
  root : Option Nat

namespace Assembly

/-- Nothing but the nodes of earlier documents. -/
def start (graph : Graph) : Assembly := ⟨graph, [], [], none⟩

/-- Puts a finished node where it belongs. -/
def place (a : Assembly) (n : Nat) : Assembly :=
  match a.stack with
  | [] => { a with root := some n }
  | top :: outer => { a with stack := { top with children := n :: top.children } :: outer }

/-- Adds a node; its anchor stands for it from now on. -/
def add (a : Assembly) (anchor : Option String) (node : GraphNode) : Nat × Assembly :=
  let n := a.graph.nodes.size
  let anchors := match anchor with
    | some name => (name, n) :: a.anchors
    | none => a.anchors
  (n, { a with graph := ⟨a.graph.nodes.push node⟩, anchors })

/-- A written tag, unless it is the one that asks for a tag to be inferred. -/
def writtenTag? (p : Properties) : Option String := p.tag.filter (· != "!")

/-- Begins a collection. -/
def enter (a : Assembly) (m : Markup) (p : Properties) (tag : String) (content : NodeContent) :
    Assembly :=
  let (n, a) := a.add p.anchor ⟨(writtenTag? p).getD tag, m.start, content⟩
  { a with stack := ⟨n, []⟩ :: a.stack }

/-- Children two by two. -/
def pairUp : List Nat → List (Nat × Nat)
  | key :: value :: rest => (key, value) :: pairUp rest
  | _ => []

/-- Ends the innermost collection. -/
def leave (a : Assembly) (content : List Nat → NodeContent) : Assembly :=
  match a.stack with
  | [] => a
  | top :: outer =>
    { a with graph := a.graph.setContent top.number (content top.children.reverse), stack := outer }
      |>.place top.number

/-- The tag of a scalar. -/
def scalarTag (m : Markup) (p : Properties) (untyped : Bool) (value : String) : String :=
  match writtenTag? p with
  | some tag => tag
  | none => (if untyped then ScalarType.infer m.version.isOld value else ScalarType.text).tag

/-- Takes one part into account. -/
def step (a : Assembly) (m : Markup) : Except Fault Assembly :=
  match m.kind with
  | .documentStart =>
    match a.root with
    | none => .ok a
    | some root =>
      .error (.during .stream (a.graph.get root).start .anotherDocument m.start)
  | .documentEnd | .streamEnd => .ok a
  | .alias name =>
    match a.anchors.lookup name with
    | some n => .ok (a.place n)
    | none => .error (.bare (.undefinedAlias name) m.start)
  | .scalar p untyped value =>
    let (n, a) := a.add p.anchor ⟨scalarTag m p untyped value, m.start, .scalar value⟩
    .ok (a.place n)
  | .sequenceStart p => .ok (a.enter m p sequenceTag (.sequence []))
  | .mappingStart p => .ok (a.enter m p mappingTag (.mapping [] none))
  | .sequenceEnd => .ok (a.leave .sequence)
  | .mappingEnd => .ok (a.leave fun children => .mapping (pairUp children) none)

/-- Takes parts into account up to the first that cannot be; its version is given with the fault. -/
def run : Assembly → List Markup → Except (Fault × Version) Assembly
  | a, [] => .ok a
  | a, m :: rest =>
    match a.step m with
    | .ok a => run a rest
    | .error f => .error (f, m.version)

end Assembly

/-- The largest number of collections that are open inside one another, `deepest` so far, while parts
are taken into account up to the first that cannot be. -/
def Assembly.reach (a : Assembly) (deepest : Nat) : List Markup → Nat
  | [] => max deepest a.stack.length
  | m :: rest =>
    let deepest := max deepest a.stack.length
    match a.step m with
    | .ok a => a.reach deepest rest
    | .error _ => deepest

/-- A graph put together, or the fault that came first, with the version in force then, and how deep
nodes lay inside one another up to there. -/
structure GraphRun where
  result : Except Fault Assembly
  version : Version
  depth : Nat

/-- Adds the nodes of the one document of a text to a graph. -/
def Graph.read (graph : Graph) (version : Version) (source : List Char) : GraphRun :=
  let parts := Markup.run version source
  let depth := (Assembly.start graph).reach 0 parts.parts
  match (Assembly.start graph).run parts.parts with
  | .error (fault, version) => ⟨.error fault, version, depth⟩
  | .ok a =>
    match parts.halt with
    | some fault => ⟨.error fault, parts.version, depth⟩
    | none => ⟨.ok a, parts.version, depth⟩

end YamlAudit.Yaml
