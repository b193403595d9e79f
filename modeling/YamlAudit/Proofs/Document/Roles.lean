import Mathlib.Data.List.Pairwise
import YamlAudit.Proofs.Document.Spot

/-!
# Document — keys and values

The children of a spot in the roles they play there: a mapping has pairs of keys and values
(`Spot.pairs`), and the values of a spot are what a path can lead to (`Spot.values`).  The stretches
of the children of a spot do not overlap, so a spot is the child of one other only
(`Spot.parent_unique`), and a key of one is never a value of another (`Spot.key_ne_value`).

This is about the tree, where an alias is a node of its own.  In the graph of a document a scalar
may be a key in one place and a value in another, through an alias, and it is for these cases that
the roles are kept apart here.
-/

namespace YamlAudit

namespace Node

/-- The pairs of a mapping. -/
def pairs : Node → List (Node × Node)
  | .mapping _ _ pairs => pairs
  | _ => []

end Node

namespace Spot

/-- Nodes in a row, the first of which comes after `before`. -/
def row (before : List Node) : List Node → List Spot
  | [] => []
  | n :: rest => ⟨before, n⟩ :: row (before ++ n.nodes) rest

/-- Keys and values in a row. -/
def rowOfPairs (before : List Node) : List (Node × Node) → List (Spot × Spot)
  | [] => []
  | (key, value) :: rest =>
    (⟨before, key⟩, ⟨before ++ key.nodes, value⟩) ::
      rowOfPairs (before ++ key.nodes ++ value.nodes) rest

/-- The keys of a mapping and their values. -/
def pairs (o : Spot) : List (Spot × Spot) := rowOfPairs (o.before ++ [o.node]) o.node.pairs

/-- The items of a sequence, or the values of a mapping. -/
def values (o : Spot) : List Spot :=
  match o.node with
  | .mapping .. => o.pairs.map Prod.snd
  | _ => o.children

theorem partsOfItems_map_row (before between items : List Node) :
    ((Node.partsOfItems between items).map fun p => (⟨before ++ p.1, p.2⟩ : Spot)) =
      row (before ++ between) items := by
  induction items generalizing between with
  | nil => rfl
  | cons item rest ih => simp [Node.partsOfItems, row, ih, List.append_assoc]

theorem children_eq_row (o : Spot) : o.children = row (o.before ++ [o.node]) o.node.children := by
  rw [children, Node.parts_eq, partsOfItems_map_row]

theorem row_flatMap (before : List Node) (pairs : List (Node × Node)) :
    row before (pairs.flatMap fun p => [p.1, p.2]) =
      (rowOfPairs before pairs).flatMap fun p => [p.1, p.2] := by
  induction pairs generalizing before with
  | nil => rfl
  | cons pair rest ih => simp [row, rowOfPairs, ih]

/-- The children of a mapping are its keys and values in turn. -/
theorem children_eq_flatMap {o : Spot} {span : Option Span} {anchor : Option String}
    {ps : List (Node × Node)} (h : o.node = .mapping span anchor ps) :
    o.children = o.pairs.flatMap fun p => [p.1, p.2] := by
  rw [children_eq_row, pairs, h]
  exact row_flatMap _ _

theorem rowOfPairs_map (before : List Node) (pairs : List (Node × Node)) :
    (rowOfPairs before pairs).map (fun p => (p.1.node, p.2.node)) = pairs := by
  induction pairs generalizing before with
  | nil => rfl
  | cons pair rest ih => simp [rowOfPairs, ih]

/-- The nodes of the pairs of a spot are the pairs of its node. -/
theorem pairs_map_node (o : Spot) : o.pairs.map (fun p => (p.1.node, p.2.node)) = o.node.pairs :=
  rowOfPairs_map _ _

theorem pairs_mem_children {o : Spot} {p : Spot × Spot} (h : p ∈ o.pairs) :
    p.1 ∈ o.children ∧ p.2 ∈ o.children := by
  cases hn : o.node with
  | mapping span anchor ps =>
      rw [children_eq_flatMap hn]
      exact ⟨List.mem_flatMap.mpr ⟨p, h, by simp⟩, List.mem_flatMap.mpr ⟨p, h, by simp⟩⟩
  | _ =>
      rw [pairs, hn] at h
      cases h

theorem values_subset_children {o v : Spot} (h : v ∈ o.values) : v ∈ o.children := by
  unfold values at h
  split at h
  · obtain ⟨p, hp, rfl⟩ := List.mem_map.mp h
    exact (pairs_mem_children hp).2
  · exact h

/-! ### Stretches -/

theorem le_of_mem_row {before items : List Node} {c : Spot} (h : c ∈ row before items) :
    before.length ≤ c.before.length := by
  induction items generalizing before with
  | nil => cases h
  | cons item rest ih =>
      rcases List.mem_cons.mp h with rfl | h
      · exact Nat.le_refl _
      · have := ih h
        rw [List.length_append] at this
        omega

theorem row_pairwise (before items : List Node) :
    (row before items).Pairwise fun a b => a.stop ≤ b.before.length := by
  induction items generalizing before with
  | nil => exact .nil
  | cons item rest ih =>
      refine .cons (fun c hc => ?_) (ih _)
      simpa [stop] using le_of_mem_row hc

/-- The stretches of two children are apart. -/
theorem siblings {o a b : Spot} (ha : a ∈ o.children) (hb : b ∈ o.children) :
    a = b ∨ a.stop ≤ b.before.length ∨ b.stop ≤ a.before.length := by
  rw [children_eq_row] at ha hb
  let Apart (a b : Spot) : Prop := a.stop ≤ b.before.length ∨ b.stop ≤ a.before.length
  have hsymm : Std.Symm Apart := ⟨fun _ _ h => h.symm⟩
  have hrow : (row (o.before ++ [o.node]) o.node.children).Pairwise Apart :=
    (row_pairwise _ _).imp .inl
  by_cases h : a = b
  · exact .inl h
  · exact .inr (hrow.forall ha hb h)

/-- A child of what lies inside a spot is inside its stretch, but does not begin it. -/
theorem lt_of_child_inside {a o c : Spot} (h : Inside a o) (hc : c ∈ o.children) :
    a.before.length < c.before.length ∧ c.before.length < a.stop := by
  obtain ⟨pre, post, hb, hn⟩ := h.split
  obtain ⟨p, hp, rfl⟩ := mem_children_iff.mp hc
  obtain ⟨⟨mid, hmid⟩, later, hlater⟩ := Node.parts_prefix hp
  obtain ⟨below, hbelow⟩ := p.2.nodes_eq_cons
  simp only [stop, hn, hlater, hb, hmid, hbelow, List.length_append, List.length_cons]
  omega

/-- A spot is the child of one other only. -/
theorem parent_unique {a o o' c : Spot} (ho : Inside a o) (ho' : Inside a o') (hc : c ∈ o.children)
    (hc' : c ∈ o'.children) : o = o' := by
  induction hl : a.node.nodes.length using Nat.strongRecOn generalizing a with
  | ind l ih =>
      -- a child of the root is no child of what lies inside a child of the root
      have houter : ∀ {x q : Spot}, x ∈ a.children → Inside x q → c ∈ q.children →
          c ∉ a.children := by
        intro x q hx hq hcq hca
        obtain ⟨h₁, h₂⟩ := lt_of_child_inside hq hcq
        rcases siblings hx hca with rfl | h | h
        · omega
        · omega
        · have := c.before_length_lt_stop
          omega
      rcases Relation.ReflTransGen.cases_head ho with rfl | ⟨x, hx, hxo⟩ <;>
        rcases Relation.ReflTransGen.cases_head ho' with rfl | ⟨y, hy, hyo⟩
      · rfl
      · exact absurd hc (houter hy hyo hc')
      · exact absurd hc' (houter hx hxo hc)
      · obtain ⟨h₁, h₂⟩ := lt_of_child_inside hxo hc
        obtain ⟨h₃, h₄⟩ := lt_of_child_inside hyo hc'
        rcases siblings hx hy with rfl | h | h
        · obtain ⟨p, hp, rfl⟩ := mem_children_iff.mp hx
          exact ih _ (hl ▸ Node.length_nodes_part hp) hxo hyo rfl
        · omega
        · omega

theorem rowOfPairs_ne (before : List Node) (pairs : List (Node × Node)) :
    ∀ p ∈ rowOfPairs before pairs, ∀ q ∈ rowOfPairs before pairs, p.1 ≠ q.2 := by
  induction pairs generalizing before with
  | nil => intro p hp; cases hp
  | cons pair rest ih =>
      obtain ⟨key, value⟩ := pair
      -- a later pair begins behind this one, so spots of two pairs differ in what comes before them
      have hlater : ∀ p ∈ rowOfPairs (before ++ key.nodes ++ value.nodes) rest,
          before.length + key.nodes.length < p.1.before.length ∧
            before.length < p.2.before.length := by
        intro p hp
        have hrow := row_flatMap (before ++ key.nodes ++ value.nodes) rest
        have h₁ := le_of_mem_row (hrow ▸ List.mem_flatMap.mpr ⟨p, hp, by simp⟩ : p.1 ∈ row _ _)
        have h₂ := le_of_mem_row (hrow ▸ List.mem_flatMap.mpr ⟨p, hp, by simp⟩ : p.2 ∈ row _ _)
        obtain ⟨below, hbelow⟩ := value.nodes_eq_cons
        simp only [List.length_append, hbelow, List.length_cons] at h₁ h₂
        omega
      obtain ⟨below, hbelow⟩ := key.nodes_eq_cons
      intro p hp q hq heq
      have hlen := congrArg (fun o : Spot => o.before.length) heq
      rcases List.mem_cons.mp hp with rfl | hp <;> rcases List.mem_cons.mp hq with rfl | hq
      · simp [hbelow] at hlen
      · have := (hlater q hq).2
        simp only at hlen
        omega
      · have := (hlater p hp).1
        simp only [List.length_append] at hlen
        omega
      · exact ih _ p hp q hq heq

/-- A key is no value, not even of another mapping. -/
theorem key_ne_value {a o o' v : Spot} {p : Spot × Spot} (ho : Inside a o) (ho' : Inside a o')
    (hp : p ∈ o.pairs) (hv : v ∈ o'.values) : p.1 ≠ v := by
  rintro rfl
  obtain rfl := parent_unique ho ho' (pairs_mem_children hp).1 (values_subset_children hv)
  cases hn : o.node with
  | mapping span anchor ps =>
      simp only [values, hn] at hv
      obtain ⟨q, hq, heq⟩ := List.mem_map.mp hv
      exact rowOfPairs_ne _ _ p hp q hq heq.symm
  | _ =>
      rw [pairs, hn] at hp
      cases hp

/-- The root is no key. -/
theorem key_ne_root {d : Node} {o : Spot} {p : Spot × Spot} (ho : Inside (root d) o)
    (hp : p ∈ o.pairs) : p.1 ≠ root d := by
  intro h
  have := (lt_of_child_inside ho (pairs_mem_children hp).1).1
  rw [h] at this
  exact Nat.lt_irrefl _ this

end Spot

end YamlAudit
