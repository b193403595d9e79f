import YamlAudit.Yaml.Graph
import YamlAudit.Yaml.Scalar

/-!
# Yaml — Build

From nodes to values, each node by its tag.  A collection is made empty and filled later, so that it
can contain itself: all that is inside a key is filled at once, everything else in rounds after the
root has been made (`Builder.fillRounds`).  Merge keys are resolved when their mapping is filled.

A `Builder` that fails keeps what it has: collections that were still to be filled are filled with
those of its next document.  One that succeeds starts afresh.

Calls lie inside one another where a node is made inside another at once, where a mapping is merged
into one that is merged itself, and where the text of a mapping is that of another.  They may do so to
some depth only (`BuildMode.calls`): what lies deeper is refused.
-/

namespace YamlAudit.Yaml

/-- How a collection is filled. -/
inductive Filler where
  | list
  | mapping
  | set
  | ordered
  | pairs
  deriving DecidableEq, Repr, Inhabited

/-- The collection to begin with. -/
def Filler.initial : Filler → Container
  | list | pairs => .list []
  | mapping => .mapping []
  | set => .set []
  | ordered => .ordered []

/-- A collection that is still to be filled from a node. -/
structure Filling where
  filler : Filler
  node : Nat
  container : Nat
  deriving Inhabited

/-- What was built so far, and what is still to be done. -/
structure Builder where
  graph : Graph
  store : Store
  /-- The values of the nodes that have one, by their numbers. -/
  built : Array (Option Value)
  /-- The nodes whose values are being made. -/
  busy : List Nat
  pending : Array Filling
  /-- Whether collections are filled at once. -/
  eager : Bool
  deriving Inhabited

/-- A builder that has done nothing. -/
def Builder.empty : Builder := ⟨.empty, .empty, #[], [], #[], false⟩

/-- How scalars are read. -/
structure BuildMode where
  /-- The keys of mappings are kept as they are written. -/
  literalKeys : Bool
  /-- Numbers are read as in version 1.1. -/
  old : Bool
  /-- How many calls may be inside one another. -/
  calls : Nat

/-- A step of building: a failed one leaves the builder as it was at that point. -/
abbrev Build := EStateM BuildError Builder

namespace Build

/-- Ends with a fault. -/
def fail {α : Type} (f : Fault) : Build α := throw (.fault f)

/-- Ends with a refusal. -/
def refuse {α : Type} (r : Refusal) : Build α := throw (.refusal r)

/-- The result of reading a text. -/
def reading {α : Type} : Except Refusal α → Build α
  | .ok a => return a
  | .error r => refuse r

/-- The result of reading a text at a place. -/
def readingAt {α : Type} : Except BuildError α → Build α
  | .ok a => return a
  | .error e => throw e

/-- The node with a number. -/
def node (n : Nat) : Build GraphNode := return (← get).graph.get n

/-- Changes the graph. -/
def modifyGraph (f : Graph → Graph) : Build Unit :=
  modify fun b => { b with graph := f b.graph }

/-- Changes the store. -/
def modifyStore (f : Store → Store) : Build Unit :=
  modify fun b => { b with store := f b.store }

/-- Makes a new container. -/
def alloc (c : Container) : Build (Nat × Value) := do
  let b ← get
  let (v, store) := b.store.add c
  set { b with store }
  return (b.store.containers.size, v)

/-- The fault of a node of the wrong kind. -/
def wrongKind {α : Type} (expected : NodeKind) (n : GraphNode) : Build α :=
  fail (.bare (.wrongKind expected n.content.kind) n.start)

/-- The text of a scalar; that of a mapping is the text under its key `=`. -/
def scalarText : Nat → Nat → Build String
  | 0, _ => refuse .exhausted
  | fuel + 1, n => do
    let nd ← node n
    match nd.content with
    | .scalar value => return value
    | .sequence _ => wrongKind .scalar nd
    | .mapping pairs _ =>
      let graph := (← get).graph
      match pairs.find? fun p => (graph.get p.1).tag == ScalarType.value.tag with
      | some p => scalarText fuel p.2
      | none => wrongKind .scalar nd

/-! ### Merge keys -/

/-- The pairs of a mapping. -/
def pairsOf (n : Nat) : Build (List (Nat × Nat)) := do
  match (← node n).content with
  | .mapping pairs _ => return pairs
  | _ => return []

/-- Replaces the pairs of a mapping. -/
def setPairs (n : Nat) (pairs : List (Nat × Nat)) : Build Unit := do
  match (← node n).content with
  | .mapping _ merged => modifyGraph (·.setContent n (.mapping pairs merged))
  | _ => return ()

/-- The pairs that a list of mappings contributes: those of the last come first. -/
def mergeItems (flatten : Nat → Build Unit) (whole : Mark) :
    List Nat → Build (List (Nat × Nat))
  | [] => return []
  | item :: rest => do
    let nd ← node item
    match nd.content with
    | .mapping .. =>
      flatten item
      let pairs ← pairsOf item
      return (← mergeItems flatten whole rest) ++ pairs
    | _ => fail (.during .mapping whole (.notMergeableItem nd.content.kind) nd.start)

/-- The pairs that the value of a merge key contributes. -/
def mergeValue (flatten : Nat → Build Unit) (whole : Mark) (value : Nat) :
    Build (List (Nat × Nat)) := do
  let nd ← node value
  match nd.content with
  | .mapping .. =>
    flatten value
    pairsOf value
  | .sequence items => mergeItems flatten whole items
  | .scalar _ => fail (.during .mapping whole (.notMergeable .scalar) nd.start)

/-- Takes the merge keys out of a mapping, from the pair at `index` on.  At most one of them may
contribute anything. -/
def takeMerges (flatten : Nat → Build Unit) (n : Nat) :
    Nat → Nat → List (Nat × Nat) → Build (List (Nat × Nat))
  | 0, _, merged => return merged
  | fuel + 1, index, merged => do
    let pairs ← pairsOf n
    match pairs[index]? with
    | none => return merged
    | some (key, value) =>
      let k ← node key
      if k.tag == ScalarType.merge.tag then
        let whole := (← node n).start
        if !merged.isEmpty then fail (.during .mapping whole .repeatedMerge k.start)
        setPairs n (pairs.eraseIdx index)
        takeMerges flatten n fuel index (merged ++ (← mergeValue flatten whole value))
      else
        if k.tag == ScalarType.value.tag then modifyGraph (·.setTag key ScalarType.text.tag)
        takeMerges flatten n fuel (index + 1) merged

/-- Resolves the merge keys of a mapping: the pairs they contribute come first. -/
def flatten : Nat → Nat → Build Unit
  | 0, _ => refuse .exhausted
  | fuel + 1, n => do
    let steps := 2 * (← pairsOf n).length + (← get).graph.nodes.size + 2
    let merged ← takeMerges (flatten fuel) n steps 0 []
    if !merged.isEmpty then
      let pairs ← pairsOf n
      modifyGraph (·.setContent n (.mapping (merged ++ pairs) (some merged)))

/-- Makes texts of the keys of a mapping that are scalars. -/
def keepKeys (n : Nat) : Build Unit := do
  for (key, _) in ← pairsOf n do
    if let .scalar _ := (← node key).content then
      modifyGraph (·.setTag key ScalarType.text.tag)

/-! ### Collections -/

/-- How the value of a node is made; told to be eager, all inside it is filled at once. -/
abbrev Maker := Nat → Bool → Build Value

/-- Refuses what cannot be a key. -/
def requireHashable (key : Value) : Build Unit := do
  if let some kind := key.unhashable? (← get).store then refuse (.unhashable kind)

/-- The value of a key: a list becomes a tuple. -/
def makeKey (make : Maker) (whole : GraphNode) (key : Nat) : Build Value := do
  match ← make key true with
  | .ref c =>
    match (← get).store.get c with
    | .list items => return .tuple items
    | _ => fail (.during .mapping whole.start .unhashableKey (← node key).start)
  | v => return v

/-- A value as plain text. -/
def textOf (v : Value) : Build String := do
  match Datum.text? ⟨(← get).store, v⟩ with
  | .ok t => return t
  | .error e => refuse (.overlong e)

/-- The fault of a key that a mapping has already. -/
def repeatedKey {α : Type} (whole : GraphNode) (key : Nat) (k new old : Value) : Build α := do
  fail (.during .mapping whole.start
    (.repeatedKey (← textOf k) (← textOf new) (← textOf old)) (← node key).start)

/-- The entries of pairs; `distinct` forbids a key to come twice. -/
def makeEntries (make : Maker) (whole : GraphNode) (distinct : Bool) :
    List (Nat × Nat) → List (Value × Value) → Build (List (Value × Value))
  | [], entries => return entries
  | (key, value) :: rest, entries => do
    let k ← makeKey make whole key
    let v ← make value false
    requireHashable k
    if distinct then
      if let some old := lookupKey k entries then repeatedKey whole key k v old
    makeEntries make whole distinct rest (putKey k v entries)

/-- The entries of a mapping.  Where merge keys were resolved a key may come twice: the pairs written
out win over merged ones. -/
def mappingEntries (mode : BuildMode) (make : Maker) (n : Nat) :
    Build (List (Value × Value)) := do
  if let .mapping .. := (← node n).content then
    flatten mode.calls n
    if mode.literalKeys then keepKeys n
  let whole ← node n
  match whole.content with
  | .mapping pairs none => makeEntries make whole true pairs []
  | .mapping pairs (some merged) =>
    let first ← makeEntries make whole false merged []
    let second ← makeEntries make whole false pairs []
    return second.foldl (fun acc e => putKey e.1 e.2 acc) first
  | _ => wrongKind .mapping whole

/-- The values of the items of a sequence. -/
def makeItems (make : Maker) : List Nat → Build (List Value)
  | [] => return []
  | item :: rest => do
    let v ← make item false
    return v :: (← makeItems make rest)

/-- The only pair of an entry of an ordered map or of a list of pairs. -/
def onlyPair (activity : Activity) (whole : GraphNode) (entry : Nat) : Build (Nat × Nat) := do
  let nd ← node entry
  match nd.content with
  | .mapping [pair] _ => return pair
  | .mapping pairs _ => fail (.during activity whole.start (.severalPairs pairs.length) nd.start)
  | _ => fail (.during activity whole.start (.notSinglePair nd.content.kind) nd.start)

/-- The entries of an ordered map. -/
def orderedEntries (make : Maker) (whole : GraphNode) (container : Nat) :
    List Nat → List (Value × Value) → Build Unit
  | [], _ => return ()
  | entry :: rest, entries => do
    let (key, value) ← onlyPair .orderedMap whole entry
    let k ← make key false
    requireHashable k
    if (lookupKey k entries).isSome then refuse .repeatedKey
    let v ← make value false
    let entries := putKey k v entries
    modifyStore (·.put container (.ordered entries))
    orderedEntries make whole container rest entries

/-- The tuples of a list of pairs. -/
def pairItems (make : Maker) (whole : GraphNode) (container : Nat) :
    List Nat → List Value → Build Unit
  | [], _ => return ()
  | entry :: rest, items => do
    let (key, value) ← onlyPair .pairs whole entry
    let k ← make key false
    let v ← make value false
    let items := items ++ [.tuple [k, v]]
    modifyStore (·.put container (.list items))
    pairItems make whole container rest items

/-- The items of the sequence that an ordered map or a list of pairs has to be. -/
def entriesOf (activity : Activity) (whole : GraphNode) : Build (List Nat) :=
  match whole.content with
  | .sequence items => return items
  | _ => fail (.during activity whole.start (.notSequence whole.content.kind) whole.start)

/-- Fills a collection. -/
def fill (mode : BuildMode) (make : Maker) (f : Filling) : Build Unit := do
  let whole ← node f.node
  match f.filler with
  | .list =>
    match whole.content with
    | .sequence items =>
      let values ← makeItems make items
      modifyStore (·.put f.container (.list values))
    | _ => wrongKind .sequence whole
  | .mapping =>
    let entries ← mappingEntries mode make f.node
    modifyStore (·.put f.container (.mapping entries))
  | .set =>
    let entries ← mappingEntries mode make f.node
    modifyStore (·.put f.container (.set (entries.map Prod.fst)))
  | .ordered => orderedEntries make whole f.container (← entriesOf .orderedMap whole) []
  | .pairs => pairItems make whole f.container (← entriesOf .pairs whole) []

/-! ### Nodes -/

/-- How the nodes of a tag become values. -/
inductive Recipe where
  | null
  | bool
  | int
  | float
  | binary
  | timestamp
  | text
  | collection (filler : Filler)
  deriving DecidableEq, Repr

/-- The recipe for a tag. -/
def Recipe.ofTag? (tag : String) : Option Recipe :=
  match tag with
  | "tag:yaml.org,2002:null" => some .null
  | "tag:yaml.org,2002:bool" => some .bool
  | "tag:yaml.org,2002:int" => some .int
  | "tag:yaml.org,2002:float" => some .float
  | "tag:yaml.org,2002:binary" => some .binary
  | "tag:yaml.org,2002:timestamp" => some .timestamp
  | "tag:yaml.org,2002:str" => some .text
  | "tag:yaml.org,2002:seq" => some (.collection .list)
  | "tag:yaml.org,2002:map" => some (.collection .mapping)
  | "tag:yaml.org,2002:set" => some (.collection .set)
  | "tag:yaml.org,2002:omap" => some (.collection .ordered)
  | "tag:yaml.org,2002:pairs" => some (.collection .pairs)
  | _ => none

/-- Makes the value of a node; a collection is filled at once or noted for later. -/
def makeNode (mode : BuildMode) (make : Maker) (n : Nat) : Build Value := do
  let nd ← node n
  let text : Build String := scalarText (mode.calls + 1) n
  match Recipe.ofTag? nd.tag with
  | none => fail (.bare (.unknownTag nd.tag) nd.start)
  | some .null =>
    let _ ← text
    return .null
  | some .bool => reading (readBool (← text))
  | some .int => reading (readInt mode.old (← text))
  | some .float => reading (readFloat mode.old (.ofNode n) (← text))
  | some .binary => readingAt (readBinary nd.start (← text))
  | some .timestamp =>
    match nd.content with
    | .scalar value => readingAt (readTimestamp nd.start value)
    | _ => fail (.bare (.badTimestamp "[]") nd.start)
  | some .text => return .text (← text)
  | some (.collection filler) =>
    let (container, v) ← alloc filler.initial
    let filling : Filling := ⟨filler, n, container⟩
    if (← get).eager then fill mode make filling
    else modify fun b => { b with pending := b.pending.push filling }
    return v

/-- How many calls it takes to make a node inside another. -/
def callsOfNode : Nat := 5

/-- The value of a node, `depth` nodes inside one another being made at most.  Each node is made once;
a node met again while it is being made has no value there. -/
def make (mode : BuildMode) : Nat → Maker
  | 0, _, _ => refuse .exhausted
  | depth + 1, n, eager => do
    let b ← get
    if let some v := b.built.getD n none then return v
    if eager then modify fun b => { b with eager := true }
    if b.busy.contains n then return .null
    modify fun b => { b with busy := n :: b.busy }
    let v ← makeNode mode (make mode depth) n
    modify fun s => { s with
      built := s.built.setIfInBounds n (some v)
      busy := s.busy.erase n
      eager := if eager then b.eager else s.eager }
    return v

/-- Fills the collections that are still to be filled, and those that come up meanwhile. -/
def fillRounds (mode : BuildMode) (make : Maker) : Nat → Build Unit
  | 0 => return ()
  | fuel + 1 => do
    let round := (← get).pending
    if !round.isEmpty then
      modify fun b => { b with pending := #[] }
      for f in round do fill mode make f
      fillRounds mode make fuel

/-- The value of a document with its root at `root`. -/
def document (mode : BuildMode) (root : Nat) : Build Value := do
  let size := (← get).graph.nodes.size
  modify fun b => { b with
    built := b.built ++ Array.replicate (size - b.built.size) none }
  let make := make mode (mode.calls / callsOfNode)
  let v ← make root false
  fillRounds mode make (size + 2)
  return v

end Build

/-- Why the value of a text cannot be read. -/
inductive ReadError where
  /-- Its nodes lie so deep inside one another that they cannot be put together. -/
  | tooNested
  | value (e : BuildError)

/-- A reader of one document after another: the version in force, a builder, and how many calls may be
inside one another. -/
structure ValueReader where
  version : Version
  builder : Builder
  calls : Nat

/-- How many calls may be inside one another where nothing else is said: somewhat less than a
thousand, since a reader is called by something. -/
def callRoom : Nat := 980

/-- A reader that has read nothing. -/
def ValueReader.start : ValueReader := ⟨.default, .empty, callRoom⟩

/-- How many calls it takes to put a node together inside another. -/
def callsOfLevel : Nat := 2

/-- The value of the one document of a text, and the reader for the next.  An empty stream is null. -/
def ValueReader.read (r : ValueReader) (literalKeys : Bool) (source : List Char) :
    Except ReadError Datum × ValueReader :=
  let run := r.builder.graph.read r.version source
  let next := { r with version := run.version }
  if r.calls < callsOfLevel * run.depth then (.error .tooNested, next)
  else match run.result with
    | .error fault => (.error (.value (.fault fault)), next)
    | .ok assembly =>
      match assembly.root with
      | none => (.ok ⟨.empty, .null⟩, next)
      | some root =>
        let mode : BuildMode := ⟨literalKeys, run.version.isOld, r.calls⟩
        match Build.document mode root { r.builder with graph := assembly.graph } with
        | .ok v builder => (.ok ⟨builder.store, v⟩, { next with builder := .empty })
        | .error e builder => (.error (.value e), { next with builder })

end YamlAudit.Yaml
