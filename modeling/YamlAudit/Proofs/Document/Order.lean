import YamlAudit.RangeMap.AnchorScope
import YamlAudit.RangeMap.Basic

/-!
# Document — document order

The nodes of a tree in the order in which they begin (`Node.nodes`): a node before all below it, a
key before its value, an earlier child before a later one.  The children of a node come with the
nodes that begin between the node and the child (`Node.parts`), so that the place of every node in
document order can be told from the way to it.

* `Node.parts_prefix`, `Node.nodes_split`: the nodes of a tree are its root and, one child after
  another, the nodes of the children.
* `Node.anchorNames_eq`: the names of a tree are the anchors of its nodes.
* `AnchorScope.registerAll_eq`: registering a tree registers its nodes in document order.
-/

namespace YamlAudit

namespace Node

/-- Induction on a tree: the children of a collection are all smaller. -/
@[elab_as_elim]
theorem induction {P : Node → Prop} (scalar : ∀ span anchor value, P (.scalar span anchor value))
    («alias» : ∀ span anchor source, P (.alias span anchor source))
    (bare : ∀ span anchor, P (.bare span anchor))
    (sequence : ∀ span anchor items, (∀ item ∈ items, P item) → P (.sequence span anchor items))
    (mapping : ∀ span anchor pairs, (∀ pair ∈ pairs, P pair.1 ∧ P pair.2) →
      P (.mapping span anchor pairs)) (node : Node) : P node :=
  Node.rec (motive_1 := P) (motive_2 := fun items => ∀ item ∈ items, P item)
    (motive_3 := fun pairs => ∀ pair ∈ pairs, P pair.1 ∧ P pair.2)
    (motive_4 := fun pair => P pair.1 ∧ P pair.2)
    scalar «alias» sequence mapping bare
    (by simp) (fun _ _ h ih => List.forall_mem_cons.mpr ⟨h, ih⟩)
    (by simp) (fun _ _ h ih => List.forall_mem_cons.mpr ⟨h, ih⟩)
    (fun _ _ h₁ h₂ => ⟨h₁, h₂⟩) node

mutual

/-- The nodes of a tree in document order. -/
def nodes : Node → List Node
  | .sequence span anchor items => .sequence span anchor items :: nodesOfItems items
  | .mapping span anchor pairs => .mapping span anchor pairs :: nodesOfPairs pairs
  | node => [node]

/-- The nodes of the items of a sequence. -/
def nodesOfItems : List Node → List Node
  | [] => []
  | item :: rest => item.nodes ++ nodesOfItems rest

/-- The nodes of the pairs of a mapping, each key before its value. -/
def nodesOfPairs : List (Node × Node) → List Node
  | [] => []
  | (key, value) :: rest => key.nodes ++ (value.nodes ++ nodesOfPairs rest)

end

/-- The items of a sequence, each with the nodes before it, of which `between` come first. -/
def partsOfItems (between : List Node) : List Node → List (List Node × Node)
  | [] => []
  | item :: rest => (between, item) :: partsOfItems (between ++ item.nodes) rest

/-- The keys and values of a mapping, each with the nodes before it. -/
def partsOfPairs (between : List Node) : List (Node × Node) → List (List Node × Node)
  | [] => []
  | (key, value) :: rest =>
    (between, key) :: (between ++ key.nodes, value) ::
      partsOfPairs (between ++ key.nodes ++ value.nodes) rest

/-- The children of a node, each with the nodes that begin from the node on and before the child. -/
def parts : Node → List (List Node × Node)
  | .sequence span anchor items => partsOfItems [.sequence span anchor items] items
  | .mapping span anchor pairs => partsOfPairs [.mapping span anchor pairs] pairs
  | _ => []

/-- The children of a node: the items of a sequence, the keys and values of a mapping. -/
def children : Node → List Node
  | .sequence _ _ items => items
  | .mapping _ _ pairs => pairs.flatMap fun pair => [pair.1, pair.2]
  | _ => []

/-- The node under a segment: an item of a sequence, or the value of the first scalar key of a
mapping with that text. -/
def partAt : Node → Segment → Option (List Node × Node)
  | .sequence span anchor items, .index position =>
    if position < 0 then none
    else itemAt [.sequence span anchor items] items position.toNat
  | .mapping span anchor pairs, .key name => valueAt [.mapping span anchor pairs] name pairs
  | _, _ => none
where
  /-- The item at a position. -/
  itemAt (between : List Node) : List Node → Nat → Option (List Node × Node)
    | [], _ => none
    | item :: _, 0 => some (between, item)
    | item :: rest, n + 1 => itemAt (between ++ item.nodes) rest n
  /-- The value under a key. -/
  valueAt (between : List Node) (name : String) : List (Node × Node) → Option (List Node × Node)
    | [] => none
    | (.scalar span anchor text, value) :: rest =>
      if text = name then some (between ++ [.scalar span anchor text], value)
      else valueAt (between ++ [.scalar span anchor text] ++ value.nodes) name rest
    | (key, value) :: rest => valueAt (between ++ key.nodes ++ value.nodes) name rest

/-! ### The nodes of a tree -/

/-- A tree begins with its root. -/
theorem nodes_eq_cons (node : Node) : ∃ below, node.nodes = node :: below := by
  cases node <;> exact ⟨_, rfl⟩

theorem mem_nodes_self (node : Node) : node ∈ node.nodes := by
  obtain ⟨below, h⟩ := node.nodes_eq_cons
  exact h ▸ List.mem_cons_self

/-- What comes before a child are the nodes of earlier children, and its own come next. -/
theorem partsOfItems_prefix {items : List Node} : ∀ {between : List Node} {p : List Node × Node},
    p ∈ partsOfItems between items →
      (∃ mid, p.1 = between ++ mid) ∧
        ∃ later, between ++ nodesOfItems items = p.1 ++ p.2.nodes ++ later := by
  induction items with
  | nil => intro _ _ h; cases h
  | cons item rest ih =>
      intro between p h
      rcases List.mem_cons.mp h with rfl | h
      · exact ⟨⟨[], by simp⟩, nodesOfItems rest, by simp [nodesOfItems]⟩
      · obtain ⟨⟨mid, hmid⟩, later, hlater⟩ := ih h
        exact ⟨⟨item.nodes ++ mid, by simp [hmid]⟩, later, by simpa [nodesOfItems] using hlater⟩

theorem nodesOfPairs_eq (pairs : List (Node × Node)) :
    nodesOfPairs pairs = nodesOfItems (pairs.flatMap fun pair => [pair.1, pair.2]) := by
  induction pairs with
  | nil => rfl
  | cons pair rest ih => simp [nodesOfPairs, nodesOfItems, ih]

/-- Pairs are gone through as a list of keys and values in turn. -/
theorem partsOfPairs_eq (between : List Node) (pairs : List (Node × Node)) :
    partsOfPairs between pairs =
      partsOfItems between (pairs.flatMap fun pair => [pair.1, pair.2]) := by
  induction pairs generalizing between with
  | nil => rfl
  | cons pair rest ih => simp [partsOfPairs, partsOfItems, ih]

/-- The nodes of a tree are its root and then the nodes of the children. -/
theorem nodes_eq (node : Node) : node.nodes = node :: nodesOfItems node.children := by
  cases node with
  | mapping span anchor pairs => rw [nodes, nodesOfPairs_eq]; rfl
  | _ => rfl

/-- The first child begins right behind the node. -/
theorem parts_eq (node : Node) : node.parts = partsOfItems [node] node.children := by
  cases node with
  | mapping span anchor pairs => exact partsOfPairs_eq _ _
  | _ => rfl

theorem partsOfItems_map_snd (between items : List Node) :
    (partsOfItems between items).map Prod.snd = items := by
  induction items generalizing between with
  | nil => rfl
  | cons item rest ih => simp [partsOfItems, ih]

/-- The parts are the children, each with what comes before it. -/
theorem parts_map_snd (node : Node) : node.parts.map Prod.snd = node.children := by
  rw [parts_eq, partsOfItems_map_snd]

/-- A child begins after its parent, and all of it lies inside. -/
theorem parts_prefix {node : Node} {p : List Node × Node} (h : p ∈ node.parts) :
    (∃ mid, p.1 = node :: mid) ∧ ∃ later, node.nodes = p.1 ++ p.2.nodes ++ later := by
  rw [parts_eq] at h
  rw [nodes_eq]
  simpa using partsOfItems_prefix h

/-- The nodes of a child are nodes of the tree. -/
theorem nodes_subset_of_mem_children {node c : Node} (h : c ∈ node.children) :
    c.nodes ⊆ node.nodes := by
  rw [← parts_map_snd] at h
  obtain ⟨p, hp, rfl⟩ := List.mem_map.mp h
  obtain ⟨-, later, hl⟩ := parts_prefix hp
  intro x hx
  simp [hl, hx]

/-- A node of a list of trees is a node of one of them. -/
theorem mem_nodesOfItems {items : List Node} {n : Node} :
    n ∈ nodesOfItems items ↔ ∃ item ∈ items, n ∈ item.nodes := by
  induction items with
  | nil => simp [nodesOfItems]
  | cons item rest ih => simp [nodesOfItems, ih]

/-- The nodes of a tree are its root and the nodes of the children. -/
theorem mem_nodes_iff {node n : Node} :
    n ∈ node.nodes ↔ n = node ∨ ∃ child ∈ node.children, n ∈ child.nodes := by
  rw [nodes_eq, List.mem_cons, mem_nodesOfItems]

/-- A child has fewer nodes than its parent. -/
theorem length_nodes_part {node : Node} {p : List Node × Node} (h : p ∈ node.parts) :
    p.2.nodes.length < node.nodes.length := by
  obtain ⟨⟨mid, hmid⟩, later, hlater⟩ := parts_prefix h
  rw [hlater, hmid]
  simp only [List.length_append, List.length_cons]
  omega

/-- An element of two joined lists lies in the first or in the second. -/
theorem split_append {a b pre post : List Node} {n : Node} (h : a ++ b = pre ++ n :: post) :
    (∃ post', a = pre ++ n :: post') ∨ ∃ pre', pre = a ++ pre' ∧ b = pre' ++ n :: post := by
  rcases List.append_eq_append_iff.mp h with ⟨pre', hpre, hb⟩ | ⟨mid, ha, hpost⟩
  · exact .inr ⟨pre', hpre, hb⟩
  · rcases mid with _ | ⟨x, mid⟩
    · exact .inr ⟨[], by simpa using ha.symm, by simpa using hpost.symm⟩
    · obtain ⟨rfl, -⟩ := List.cons.inj (by simpa using hpost)
      exact .inl ⟨mid, ha⟩

/-- A node of a list of trees lies in one of them, behind all nodes of those before. -/
theorem partsOfItems_split {items : List Node} {post : List Node} {n : Node} :
    ∀ {pre : List Node} (between : List Node), nodesOfItems items = pre ++ n :: post →
      ∃ p ∈ partsOfItems between items, ∃ pre' post',
        p.2.nodes = pre' ++ n :: post' ∧ between ++ pre = p.1 ++ pre' := by
  induction items with
  | nil => intro _ _ h; simp [nodesOfItems] at h
  | cons item rest ih =>
      intro pre between h
      rcases split_append h with ⟨post', hitem⟩ | ⟨pre', rfl, hrest⟩
      · exact ⟨_, List.mem_cons_self, pre, post', hitem, rfl⟩
      · obtain ⟨p, hp, pre'', post'', hn, hb⟩ := ih (between ++ item.nodes) hrest
        exact ⟨p, List.mem_cons_of_mem _ hp, pre'', post'', hn, by rw [← hb, List.append_assoc]⟩

/-- A node of a tree is its root, or lies in one of the children. -/
theorem nodes_split {node n : Node} {pre post : List Node} (h : node.nodes = pre ++ n :: post) :
    (pre = [] ∧ n = node) ∨
      ∃ p ∈ node.parts, ∃ pre' post', p.2.nodes = pre' ++ n :: post' ∧ pre = p.1 ++ pre' := by
  rw [nodes_eq] at h
  rcases pre with _ | ⟨x, pre⟩
  · exact .inl ⟨rfl, (List.cons.inj h).1.symm⟩
  · obtain ⟨rfl, h'⟩ := List.cons.inj h
    rw [parts_eq]
    exact .inr (partsOfItems_split [_] h')

/-! ### Heights -/

/-- Items are less high than their list. -/
theorem height_lt_of_mem_items {items : List Node} {child : Node} (h : child ∈ items) :
    child.height < heightOfItems items := by
  induction items with
  | nil => cases h
  | cons item rest ih =>
      rw [heightOfItems]
      rcases List.mem_cons.mp h with rfl | h
      · omega
      · have := ih h
        omega

theorem heightOfPairs_eq (pairs : List (Node × Node)) :
    heightOfPairs pairs = heightOfItems (pairs.flatMap fun pair => [pair.1, pair.2]) := by
  induction pairs with
  | nil => rfl
  | cons pair rest ih => rw [heightOfPairs, ih, Nat.max_assoc]; rfl

/-- A child is less high than its parent. -/
theorem height_child {node child : Node} (h : child ∈ node.children) :
    child.height < node.height := by
  cases node with
  | sequence span anchor items => exact height_lt_of_mem_items h
  | mapping span anchor pairs =>
      rw [height, heightOfPairs_eq]
      exact height_lt_of_mem_items h
  | _ => cases h

/-- A node is at most one higher than its children, and a leaf has no height. -/
theorem height_le_of_children {node : Node} {limit : Nat}
    (h : ∀ child ∈ node.children, child.height + 1 ≤ limit) : node.height ≤ limit := by
  have hitems : ∀ {items : List Node}, (∀ child ∈ items, child.height + 1 ≤ limit) →
      heightOfItems items ≤ limit := fun {items} h => by
    induction items with
    | nil => exact Nat.zero_le _
    | cons item rest ih =>
        obtain ⟨hitem, hrest⟩ := List.forall_mem_cons.mp h
        exact Nat.max_le.mpr ⟨hitem, ih hrest⟩
  cases node with
  | sequence span anchor items => exact hitems h
  | mapping span anchor pairs =>
      rw [height, heightOfPairs_eq]
      exact hitems h
  | _ => exact Nat.zero_le _

/-! ### Children by segment -/

/-- An item that is found by its index is one of the parts. -/
theorem itemAt_mem {items : List Node} : ∀ {between : List Node} {n : Nat} {p : List Node × Node},
    partAt.itemAt between items n = some p → p ∈ partsOfItems between items := by
  induction items with
  | nil => intro _ _ _ h; cases h
  | cons item rest ih =>
      intro between n p h
      cases n with
      | zero => exact List.mem_cons.mpr (.inl (Option.some.inj h).symm)
      | succ n => exact List.mem_cons_of_mem _ (ih h)

/-- So is a value that is found by its key. -/
theorem valueAt_mem {name : String} {pairs : List (Node × Node)} :
    ∀ {between : List Node} {p : List Node × Node},
      partAt.valueAt between name pairs = some p → p ∈ partsOfPairs between pairs := by
  induction pairs with
  | nil => intro _ _ h; cases h
  | cons pair rest ih =>
      obtain ⟨key, value⟩ := pair
      intro between p h
      cases key with
      | scalar span anchor text =>
          rw [partAt.valueAt] at h
          split at h
          · exact List.mem_cons_of_mem _ (List.mem_cons.mpr (.inl (Option.some.inj h).symm))
          · exact List.mem_cons_of_mem _ (List.mem_cons_of_mem _ (ih h))
      | _ => exact List.mem_cons_of_mem _ (List.mem_cons_of_mem _ (ih h))

/-- A segment leads to a child. -/
theorem partAt_mem {node : Node} {segment : Segment} {p : List Node × Node}
    (h : node.partAt segment = some p) : p ∈ node.parts := by
  cases node <;> cases segment <;> rw [partAt] at h <;> try cases h
  · split at h
    · cases h
    · exact itemAt_mem h
  · exact valueAt_mem h

/-! ### The names of a tree -/

/-- A node carries a name if it is anchored under it. -/
def Carries (node : Node) (name : String) : Prop := node.anchor = some name

instance (node : Node) (name : String) : Decidable (node.Carries name) :=
  inferInstanceAs (Decidable (_ = _))

/-- The names of several trees are those of their nodes. -/
theorem anchorNamesOfItems_eq {items : List Node}
    (ih : ∀ item ∈ items, item.anchorNames = item.nodes.filterMap Node.anchor) :
    anchorNamesOfItems items = (nodesOfItems items).filterMap Node.anchor := by
  induction items with
  | nil => rfl
  | cons item rest ih' =>
      simp [anchorNamesOfItems, nodesOfItems, ih item, ih' fun i hi => ih i (by simp [hi])]

theorem anchorNamesOfPairs_eq {pairs : List (Node × Node)}
    (ih : ∀ pair ∈ pairs, pair.1.anchorNames = pair.1.nodes.filterMap Node.anchor ∧
      pair.2.anchorNames = pair.2.nodes.filterMap Node.anchor) :
    anchorNamesOfPairs pairs = (nodesOfPairs pairs).filterMap Node.anchor := by
  induction pairs with
  | nil => rfl
  | cons pair rest ih' =>
      obtain ⟨key, value⟩ := pair
      obtain ⟨hk, hv⟩ := ih (key, value) (by simp)
      simp only [anchorNamesOfPairs, nodesOfPairs, hk, hv, ih' fun p hp => ih p (by simp [hp]),
        List.filterMap_append]

/-- The names of a tree are the anchors of its nodes, in document order. -/
theorem anchorNames_eq (node : Node) : node.anchorNames = node.nodes.filterMap Node.anchor := by
  induction node using Node.induction with
  | scalar _ a _ | «alias» _ a _ | bare _ a => cases a <;> rfl
  | sequence _ a items ih =>
      rw [anchorNames, nodes, anchorNamesOfItems_eq ih]
      cases a <;> rfl
  | mapping _ a pairs ih =>
      rw [anchorNames, nodes, anchorNamesOfPairs_eq ih]
      cases a <;> rfl

/-- A name of a tree is the anchor of one of its nodes. -/
theorem mem_anchorNames_iff {node : Node} {name : String} :
    name ∈ node.anchorNames ↔ ∃ n ∈ node.nodes, n.Carries name := by
  rw [anchorNames_eq, List.mem_filterMap]
  rfl

end Node

/-! ### Registering a tree -/

namespace AnchorScope

/-- Registers nodes one after another. -/
def registers (s : AnchorScope) (nodes : List Node) : AnchorScope := nodes.foldl register s

@[simp] theorem registers_cons (s : AnchorScope) (n : Node) (rest : List Node) :
    s.registers (n :: rest) = (s.register n).registers rest := rfl

/-- Nodes are registered one after the other. -/
@[simp] theorem registers_append (s : AnchorScope) (a b : List Node) :
    s.registers (a ++ b) = (s.registers a).registers b := List.foldl_append

@[simp] theorem register_expanding (s : AnchorScope) (n : Node) :
    (s.register n).expanding = s.expanding := by
  rw [register]
  split <;> rfl

/-- Registering expands nothing. -/
@[simp] theorem registers_expanding (s : AnchorScope) (nodes : List Node) :
    (s.registers nodes).expanding = s.expanding := by
  induction nodes generalizing s with
  | nil => rfl
  | cons n rest ih => rw [registers_cons, ih, register_expanding]

/-- A name a node carries is bound to it; other names keep their binding. -/
theorem find?_register (s : AnchorScope) (n : Node) (name : String) :
    find? name (s.register n).anchors = if n.Carries name then some n else find? name s.anchors := by
  unfold register Node.Carries
  split
  · next h => simp [h]
  · next a h => simp [h, find?_bind]

/-- A list of trees registers the nodes of each in turn. -/
theorem registerItems_eq {items : List Node}
    (ih : ∀ item ∈ items, ∀ s, registerAll item s = s.registers item.nodes) (s : AnchorScope) :
    registerItems items s = s.registers (Node.nodesOfItems items) := by
  induction items generalizing s with
  | nil => rfl
  | cons item rest ih' =>
      rw [registerItems, Node.nodesOfItems, registers_append, ih item (by simp),
        ih' fun i hi => ih i (by simp [hi])]

theorem registerPairs_eq {pairs : List (Node × Node)}
    (ih : ∀ pair ∈ pairs, (∀ s, registerAll pair.1 s = s.registers pair.1.nodes) ∧
      ∀ s, registerAll pair.2 s = s.registers pair.2.nodes) (s : AnchorScope) :
    registerPairs pairs s = s.registers (Node.nodesOfPairs pairs) := by
  induction pairs generalizing s with
  | nil => rfl
  | cons pair rest ih' =>
      obtain ⟨key, value⟩ := pair
      obtain ⟨hk, hv⟩ := ih (key, value) (by simp)
      rw [registerPairs, Node.nodesOfPairs, registers_append, registers_append, hk, hv,
        ih' fun p hp => ih p (by simp [hp])]

/-- Registering a tree registers its nodes in document order. -/
theorem registerAll_eq (node : Node) (s : AnchorScope) :
    registerAll node s = s.registers node.nodes := by
  induction node using Node.induction generalizing s with
  | scalar | «alias» | bare => rfl
  | sequence _ _ items ih => rw [registerAll, Node.nodes, registers_cons, registerItems_eq ih]
  | mapping _ _ pairs ih => rw [registerAll, Node.nodes, registers_cons, registerPairs_eq ih]

end AnchorScope

end YamlAudit
