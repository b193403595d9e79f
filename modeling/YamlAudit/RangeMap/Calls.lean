import YamlAudit.RangeMap.AnchorScope
import YamlAudit.RangeMap.Basic

/-!
# RangeMap — Calls

How many calls lie inside one another while a document is indexed.  The walk of `RangeMap.visit` takes
one call for the map that is built, one for every node on the way to where it is, one to record a leaf
and one to look up what an alias stands for; the map behind the alias is built by a call inside that.
When all leaves of a map have been recorded it is closed, with two calls for every step of a path and
two for the root.

A `Tally` goes through a document as the walk does and keeps the largest number so far, and which paths
have targets, since an alias is expanded only where its path has none.  The nodes are taken to have
spans, as those of a text do.
-/

namespace YamlAudit

/-- What a walk has come to: its scope, the paths with targets, and the largest number of calls inside
one another. -/
structure Tally where
  scope : AnchorScope
  targets : List (List Segment)
  calls : Nat

/-- How many calls it takes to build the map behind an alias, if there is one. -/
abbrev CallsBehind := AnchorScope → Option String → Option Nat

namespace Tally

/-- Registers a node. -/
def register (w : Tally) (node : Node) : Tally := { w with scope := w.scope.register node }

/-- Notes a number of calls inside one another. -/
def reach (w : Tally) (calls : Nat) : Tally := { w with calls := max w.calls calls }

/-- Comes to a node by a path. -/
def enter (w : Tally) (node : Node) (path : List Segment) : Tally :=
  (w.register node).reach (path.length + 2)

/-- Records a leaf at a path. -/
def record (behind : CallsBehind) (node : Node) (path : List Segment) (w : Tally) : Tally :=
  let w := w.reach (max (path.length + 3) (2 * path.length + 2))
  match node with
  | .alias _ _ source =>
    if path ∈ w.targets then w
    else match behind w.scope source with
      | none => w.reach (path.length + 4)
      | some calls => { w with targets := path :: w.targets }.reach (path.length + 4 + calls)
  | _ => w

/-- Registers all of a pair whose key is not a scalar, below a path. -/
def pass (w : Tally) (key value : Node) (path : List Segment) : Tally :=
  { w with scope := w.scope.registerAll key |>.registerAll value }.reach
    (path.length + 3 + max key.height value.height)

mutual

/-- Walks a node at a path. -/
def visit (behind : CallsBehind) : Node → List Segment → Tally → Tally
  | .scalar span anchor value, path, w =>
    let node := Node.scalar span anchor value
    (w.enter node path).record behind node path
  | .alias span anchor source, path, w =>
    let node := Node.alias span anchor source
    (w.enter node path).record behind node path
  | .bare span anchor, path, w => w.enter (.bare span anchor) path
  | .sequence span anchor items, path, w =>
    let node := Node.sequence span anchor items
    let w := visitItems behind 0 items path (w.enter node path)
    if items.isEmpty then w.record behind node path else w
  | .mapping span anchor pairs, path, w =>
    let node := Node.mapping span anchor pairs
    let w := visitPairs behind pairs path (w.enter node path)
    if pairs.isEmpty then w.record behind node path else w

/-- Walks the items of a sequence from position `n` on. -/
def visitItems (behind : CallsBehind) : Nat → List Node → List Segment → Tally → Tally
  | _, [], _, w => w
  | n, item :: rest, path, w =>
    visitItems behind (n + 1) rest path (visit behind item (path ++ [.index n]) w)

/-- Walks the pairs of a mapping. -/
def visitPairs (behind : CallsBehind) : List (Node × Node) → List Segment → Tally → Tally
  | [], _, w => w
  | (.scalar span anchor name, value) :: rest, path, w =>
    let w := w.register (.scalar span anchor name)
    visitPairs behind rest path (visit behind value (path ++ [.key name]) w)
  | (key, value) :: rest, path, w => visitPairs behind rest path (w.pass key value path)

end

end Tally

namespace RangeMap

/-- How many calls lie inside one another while the map rooted at a node is built, with room for
`budget` expansions inside each other. -/
def callsOf : Nat → Node → AnchorScope → Nat
  | 0, root, scope => (Tally.visit (fun _ _ => none) root [] ⟨scope, [], 1⟩).calls
  | budget + 1, root, scope =>
    let behind : CallsBehind := fun scope source => do
      let name ← source
      let node ← scope.referent name
      return callsOf budget node (scope.entering name)
    (Tally.visit behind root [] ⟨scope, [], 1⟩).calls

/-- How many calls lie inside one another while a document is indexed. -/
def calls (root : Node) : Nat := callsOf root.anchorNames.length root .empty

end RangeMap

end YamlAudit
