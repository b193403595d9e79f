import YamlAudit.RangeMap.Basic
import YamlAudit.RangeMap.AnchorScope
import YamlAudit.Source.LineTable

/-!
# RangeMap — Index

From a document to its range map.  The walk is depth first and in document order.  Every leaf that
stands below positioned scalar keys and positioned items writes its path into the map (`record`): a
position is made when a leaf below it is first met, and its own range is that of the last leaf with
exactly its path.  A leaf that is an alias gets the map of the node it stands for as its target,
unless its position has one.  Below a key that is not a scalar nothing is recorded, but the anchors
there are registered all the same.

The map behind an alias is built by the same walk from the anchored node, with the alias's name
marked as being expanded (`build`); each such step marks another name, so the number of anchor names
bounds their nesting and the budget of `index` never runs out.
-/

namespace YamlAudit

/-- One positioned step from the root towards a leaf. -/
structure PathStep where
  segment : Segment
  value : Range
  key : Option Range
  deriving DecidableEq

namespace RangeMap

/-- The target recorded at a path, if there is one. -/
def targetAt : RangeMap → List PathStep → Option RangeMap
  | m, [] => m.target
  | m, step :: rest =>
    match m.child step.segment with
    | none => none
    | some c => c.targetAt rest

/-- Writes a leaf under its path: its range, and its target if it has one. -/
def record (leafRange : Range) (target : Option RangeMap) : List PathStep → RangeMap → RangeMap
  | [], m => { m with value := leafRange, target := target.orElse fun _ => m.target }
  | step :: rest, m =>
    let next := (m.child step.segment).getD (leaf step.value step.key)
    { m with children := put step.segment (record leafRange target rest next) m.children }

end RangeMap

namespace LineTable

/-- The range of a node, if it has a span. -/
def nodeRange (t : LineTable) (node : Node) : Except Reversed (Option Range) :=
  match node.span with
  | none => .ok none
  | some span => (t.range span.start span.stop).map some

end LineTable

/-- How the map behind an alias is obtained, given the scope at the alias and its name. -/
abbrev Expansion := AnchorScope → Option String → Except Reversed (Option RangeMap)

namespace RangeMap

/-- Records a leaf whose whole path has positions; other leaves leave no trace. -/
def recordLeaf (t : LineTable) (expand : Expansion) (node : Node)
    (path : Option (List PathStep)) (scope : AnchorScope) (m : RangeMap) :
    Except Reversed RangeMap := do
  match ← t.nodeRange node, path with
  | some leafRange, some steps =>
    match node with
    | .alias _ _ source =>
      match m.targetAt steps with
      | some _ => return record leafRange none steps m
      | none => return record leafRange (← expand scope source) steps m
    | _ => return record leafRange none steps m
  | _, _ => return m

/-- A path goes on only through positions. -/
def extend (path : Option (List PathStep)) (step : Option PathStep) : Option (List PathStep) :=
  match path, step with
  | some steps, some s => some (steps ++ [s])
  | _, _ => none

/-- The step into the value under a scalar key. -/
def keyStep (name : String) (key value : Option Range) : Option PathStep :=
  match key, value with
  | some k, some v => some ⟨.key name, v, some k⟩
  | _, _ => none

/-- The step to an item of a sequence. -/
def itemStep (position : Nat) (value : Option Range) : Option PathStep :=
  value.map fun v => ⟨.index position, v, none⟩

mutual

/-- Walks a node whose path from the root is `path`, with the map and the scope so far. -/
def visit (t : LineTable) (expand : Expansion) :
    Node → Option (List PathStep) → RangeMap → AnchorScope →
      Except Reversed (RangeMap × AnchorScope)
  | .scalar span anchor value, path, m, scope => do
    let node := Node.scalar span anchor value
    let scope := scope.register node
    return (← recordLeaf t expand node path scope m, scope)
  | .alias span anchor source, path, m, scope => do
    let node := Node.alias span anchor source
    let scope := scope.register node
    return (← recordLeaf t expand node path scope m, scope)
  | .bare span anchor, _, m, scope => .ok (m, scope.register (.bare span anchor))
  | .sequence span anchor items, path, m, scope => do
    let node := Node.sequence span anchor items
    let scope := scope.register node
    let (m, scope) ← visitItems t expand 0 items path m scope
    if items.isEmpty then return (← recordLeaf t expand node path scope m, scope)
    else return (m, scope)
  | .mapping span anchor pairs, path, m, scope => do
    let node := Node.mapping span anchor pairs
    let scope := scope.register node
    let (m, scope) ← visitPairs t expand pairs path m scope
    if pairs.isEmpty then return (← recordLeaf t expand node path scope m, scope)
    else return (m, scope)

/-- Walks the items of a sequence from position `n` on. -/
def visitItems (t : LineTable) (expand : Expansion) :
    Nat → List Node → Option (List PathStep) → RangeMap → AnchorScope →
      Except Reversed (RangeMap × AnchorScope)
  | _, [], _, m, scope => .ok (m, scope)
  | n, item :: rest, path, m, scope => do
    let step := itemStep n (← t.nodeRange item)
    let (m, scope) ← visit t expand item (extend path step) m scope
    visitItems t expand (n + 1) rest path m scope

/-- Walks the pairs of a mapping. -/
def visitPairs (t : LineTable) (expand : Expansion) :
    List (Node × Node) → Option (List PathStep) → RangeMap → AnchorScope →
      Except Reversed (RangeMap × AnchorScope)
  | [], _, m, scope => .ok (m, scope)
  | (.scalar span anchor name, value) :: rest, path, m, scope => do
    let key := Node.scalar span anchor name
    let scope := scope.register key
    let keyRange ← t.nodeRange key
    let valueRange ← t.nodeRange value
    let (m, scope) ← visit t expand value (extend path (keyStep name keyRange valueRange)) m scope
    visitPairs t expand rest path m scope
  | (key, value) :: rest, path, m, scope =>
    visitPairs t expand rest path m (scope.registerAll key |>.registerAll value)

end

/-- The map rooted at a node, the aliases below it being expanded by `expand`. -/
def rootedAt (t : LineTable) (expand : Expansion) (root : Node) (scope : AnchorScope) :
    Except Reversed (Option RangeMap) := do
  match ← t.nodeRange root with
  | none => return none
  | some range =>
    let (m, _) ← visit t expand root (some []) (leaf range none) scope
    return some m

/-- The map rooted at a node, with room for `budget` expansions inside each other. -/
def build (t : LineTable) : Nat → Node → AnchorScope → Except Reversed (Option RangeMap)
  | 0, root, scope => rootedAt t (fun _ _ => .ok none) root scope
  | budget + 1, root, scope =>
    let expand : Expansion := fun scope source =>
      match source with
      | some name =>
        match scope.referent name with
        | some node => build t budget node (scope.entering name)
        | none => .ok none
      | none => .ok none
    rootedAt t expand root scope

/-- The range map of a document, or nothing when its root has no position. -/
def index (t : LineTable) (root : Node) : Except Reversed (Option RangeMap) :=
  build t root.anchorNames.length root .empty

end RangeMap

end YamlAudit
