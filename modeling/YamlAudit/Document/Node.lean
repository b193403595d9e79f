/-!
# Document — Node

The tree of a document as it is written: an alias stays an alias, and every node knows where it
stands in the text and which anchor it carries.  `Node.leaf` says which nodes have nothing below
them; `Node.anchorNames` lists the anchors of a tree in document order.
-/

namespace YamlAudit

/-- The offsets at which a stretch of text begins and ends. -/
structure Span where
  start : Int
  stop : Int
  deriving DecidableEq, Repr, Inhabited

/-- A node of a document.  A `bare` node has neither content nor children. -/
inductive Node where
  | scalar (span : Option Span) (anchor : Option String) (value : String)
  | alias (span : Option Span) (anchor : Option String) (source : Option String)
  | sequence (span : Option Span) (anchor : Option String) (items : List Node)
  | mapping (span : Option Span) (anchor : Option String) (pairs : List (Node × Node))
  | bare (span : Option Span) (anchor : Option String)
  deriving BEq, Repr, Inhabited

namespace Node

/-- Where a node stands, when that is known. -/
def span : Node → Option Span
  | scalar s _ _ | .alias s _ _ | sequence s _ _ | mapping s _ _ | bare s _ => s

/-- The name a node is anchored under. -/
def anchor : Node → Option String
  | scalar _ a _ | .alias _ a _ | sequence _ a _ | mapping _ a _ | bare _ a => a

/-- A leaf is a scalar, an alias or an empty collection. -/
def isLeaf : Node → Bool
  | scalar .. | .alias .. => true
  | sequence _ _ items => items.isEmpty
  | mapping _ _ pairs => pairs.isEmpty
  | bare .. => false

mutual

/-- The anchors of a tree in document order, repeated as often as they are written. -/
def anchorNames : Node → List String
  | scalar _ a _ | .alias _ a _ | bare _ a => a.toList
  | sequence _ a items => a.toList ++ anchorNamesOfItems items
  | mapping _ a pairs => a.toList ++ anchorNamesOfPairs pairs

/-- The anchors of the items of a sequence. -/
def anchorNamesOfItems : List Node → List String
  | [] => []
  | item :: rest => item.anchorNames ++ anchorNamesOfItems rest

/-- The anchors of the pairs of a mapping, each key before its value. -/
def anchorNamesOfPairs : List (Node × Node) → List String
  | [] => []
  | (key, value) :: rest => key.anchorNames ++ (value.anchorNames ++ anchorNamesOfPairs rest)

end

mutual

/-- The number of steps from a node down to the deepest node below it. -/
def height : Node → Nat
  | scalar .. | .alias .. | bare .. => 0
  | sequence _ _ items => heightOfItems items
  | mapping _ _ pairs => heightOfPairs pairs

/-- One more than the greatest height among the items, zero without items. -/
def heightOfItems : List Node → Nat
  | [] => 0
  | item :: rest => max (item.height + 1) (heightOfItems rest)

/-- One more than the greatest height among the keys and values, zero without pairs. -/
def heightOfPairs : List (Node × Node) → Nat
  | [] => 0
  | (key, value) :: rest => max (max (key.height + 1) (value.height + 1)) (heightOfPairs rest)

end

end Node

end YamlAudit
