import YamlAudit.Proofs.Document.Order

/-!
# Document — documents further on

A document is moved by moving the spans of all its nodes (`Node.moved`); a scope is moved by moving
the nodes it binds (`AnchorScope.moved`).  This is what becomes of a document when lines are put in
front of its text: every offset grows by the same number, and nothing else changes.

Anchors and their order are not touched, so registering, entering and looking up names commute with
the move.  Each operation has one lemma that says so, and the lemmas for whole trees follow the
recursion of `AnchorScope.registerAll`: a node first, then its items, or the key and the value of each
pair.  What the map of a moved document is like rests on these lemmas and on those for line tables; it
is not the subject here.

* `Node.anchorNames_moved`: a moved tree has the same anchors.
* `AnchorScope.registerAll_moved`: registering a moved tree in a moved scope.
* `AnchorScope.referent_moved`: what an alias stands for in a moved scope.
-/

namespace YamlAudit

/-- The same span `n` characters further on. -/
def Span.moved (n : Int) (s : Span) : Span := ⟨s.start + n, s.stop + n⟩

namespace Node

mutual

/-- The same tree with all its spans `n` characters further on. -/
def moved (n : Int) : Node → Node
  | .scalar span anchor value => .scalar (span.map (·.moved n)) anchor value
  | .alias span anchor source => .alias (span.map (·.moved n)) anchor source
  | .sequence span anchor items => .sequence (span.map (·.moved n)) anchor (movedItems n items)
  | .mapping span anchor pairs => .mapping (span.map (·.moved n)) anchor (movedPairs n pairs)
  | .bare span anchor => .bare (span.map (·.moved n)) anchor

/-- The items of a sequence, further on. -/
def movedItems (n : Int) : List Node → List Node
  | [] => []
  | item :: rest => item.moved n :: movedItems n rest

/-- The pairs of a mapping, further on. -/
def movedPairs (n : Int) : List (Node × Node) → List (Node × Node)
  | [] => []
  | (key, value) :: rest => (key.moved n, value.moved n) :: movedPairs n rest

end

variable {n : Int}

/-- The span of a moved node is the span moved. -/
@[simp] theorem span_moved (node : Node) : (node.moved n).span = node.span.map (·.moved n) := by
  cases node <;> rfl

/-- A moved node keeps its anchor. -/
@[simp] theorem anchor_moved (node : Node) : (node.moved n).anchor = node.anchor := by
  cases node <;> rfl

/-- Moved items have the names they had if each of them has. -/
theorem anchorNamesOfItems_moved {items : List Node}
    (ih : ∀ item ∈ items, (item.moved n).anchorNames = item.anchorNames) :
    anchorNamesOfItems (movedItems n items) = anchorNamesOfItems items := by
  induction items with
  | nil => rfl
  | cons item rest ih' =>
      rw [movedItems, anchorNamesOfItems, anchorNamesOfItems, ih item List.mem_cons_self,
        ih' fun i hi => ih i (List.mem_cons_of_mem _ hi)]

/-- So have moved pairs. -/
theorem anchorNamesOfPairs_moved {pairs : List (Node × Node)}
    (ih : ∀ pair ∈ pairs, (pair.1.moved n).anchorNames = pair.1.anchorNames ∧
      (pair.2.moved n).anchorNames = pair.2.anchorNames) :
    anchorNamesOfPairs (movedPairs n pairs) = anchorNamesOfPairs pairs := by
  induction pairs with
  | nil => rfl
  | cons pair rest ih' =>
      obtain ⟨hkey, hvalue⟩ := ih pair List.mem_cons_self
      rw [movedPairs, anchorNamesOfPairs, anchorNamesOfPairs, hkey, hvalue,
        ih' fun p hp => ih p (List.mem_cons_of_mem _ hp)]

/-- The anchors of a moved tree are those of the tree, in the same order. -/
@[simp] theorem anchorNames_moved (node : Node) : (node.moved n).anchorNames = node.anchorNames := by
  induction node using Node.induction with
  | sequence span anchor items ih =>
      rw [moved, anchorNames, anchorNames, anchorNamesOfItems_moved ih]
  | mapping span anchor pairs ih =>
      rw [moved, anchorNames, anchorNames, anchorNamesOfPairs_moved ih]
  | _ => rfl

end Node

namespace AnchorScope

/-- The same scope where all spans are `n` characters further on. -/
def moved (n : Int) (s : AnchorScope) : AnchorScope :=
  { s with anchors := s.anchors.map fun e => (e.1, e.2.moved n) }

variable {n : Int}

/-- Binding a name and moving what is bound can be done in either order: names are compared, nodes
are not. -/
theorem bind_moved (name : String) (node : Node) (anchors : List (String × Node)) :
    (bind name node anchors).map (fun e => (e.1, e.2.moved n)) =
      bind name (node.moved n) (anchors.map fun e => (e.1, e.2.moved n)) := by
  induction anchors with
  | nil => rfl
  | cons e rest ih =>
      obtain ⟨m, old⟩ := e
      rw [List.map_cons, bind, bind]
      split
      · rfl
      · rw [List.map_cons, ih]

/-- What is found under a name in moved bindings is what was found before, moved. -/
theorem find?_moved (name : String) (anchors : List (String × Node)) :
    find? name (anchors.map fun e => (e.1, e.2.moved n)) = (find? name anchors).map (·.moved n) := by
  induction anchors with
  | nil => rfl
  | cons e rest ih =>
      obtain ⟨m, old⟩ := e
      rw [List.map_cons, find?, find?]
      split
      · rfl
      · exact ih

/-- A moved node is registered under the anchor that it has kept. -/
@[simp] theorem register_moved (s : AnchorScope) (node : Node) :
    (s.moved n).register (node.moved n) = (s.register node).moved n := by
  unfold register
  rw [Node.anchor_moved]
  cases node.anchor with
  | none => rfl
  | some name => simp only [moved, bind_moved]

/-- Which names are being expanded does not depend on where the nodes lie. -/
@[simp] theorem entering_moved (s : AnchorScope) (name : String) :
    (s.moved n).entering name = (s.entering name).moved n := by
  by_cases h : name ∈ s.expanding <;> simp [entering, moved, h]

/-- An alias stands for the node it stood for, moved, and for none where it stood for none. -/
theorem referent_moved (s : AnchorScope) (name : String) :
    (s.moved n).referent name = (s.referent name).map (·.moved n) := by
  by_cases h : name ∈ s.expanding
  · simp [referent, moved, h]
  · simp [referent, moved, h, find?_moved]

/-- Registering moved items comes to the moved scope if it does for each of them. -/
theorem registerItems_moved {items : List Node}
    (ih : ∀ item ∈ items, ∀ s, registerAll (item.moved n) (moved n s) = (registerAll item s).moved n)
    (s : AnchorScope) :
    registerItems (Node.movedItems n items) (s.moved n) = (registerItems items s).moved n := by
  induction items generalizing s with
  | nil => rfl
  | cons item rest ih' =>
      rw [Node.movedItems, registerItems, registerItems, ih item List.mem_cons_self,
        ih' fun i hi => ih i (List.mem_cons_of_mem _ hi)]

/-- The same for pairs, the key before the value. -/
theorem registerPairs_moved {pairs : List (Node × Node)}
    (ih : ∀ pair ∈ pairs,
      (∀ s, registerAll (pair.1.moved n) (moved n s) = (registerAll pair.1 s).moved n) ∧
      ∀ s, registerAll (pair.2.moved n) (moved n s) = (registerAll pair.2 s).moved n)
    (s : AnchorScope) :
    registerPairs (Node.movedPairs n pairs) (s.moved n) = (registerPairs pairs s).moved n := by
  induction pairs generalizing s with
  | nil => rfl
  | cons pair rest ih' =>
      obtain ⟨hkey, hvalue⟩ := ih pair List.mem_cons_self
      rw [Node.movedPairs, registerPairs, registerPairs, hkey, hvalue,
        ih' fun p hp => ih p (List.mem_cons_of_mem _ hp)]

/-- A moved tree is registered in document order like the tree itself, so the scopes go on differing
by the move alone. -/
@[simp] theorem registerAll_moved (node : Node) (s : AnchorScope) :
    registerAll (node.moved n) (s.moved n) = (registerAll node s).moved n := by
  induction node using Node.induction generalizing s with
  | sequence span anchor items ih =>
      rw [registerAll, ← registerItems_moved ih, ← register_moved]
      rfl
  | mapping span anchor pairs ih =>
      rw [registerAll, ← registerPairs_moved ih, ← register_moved]
      rfl
  | _ => exact register_moved s _

end AnchorScope

end YamlAudit
