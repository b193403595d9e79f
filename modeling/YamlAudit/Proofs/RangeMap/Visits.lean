import YamlAudit.Proofs.RangeMap.Built
import YamlAudit.Proofs.RangeMap.Recorded
import YamlAudit.Proofs.RangeMap.Step

/-!
# RangeMap — what a walk knows of anchors

A walk registers what it passes, whether it records it, skips it or has no position for it, and keeps
nothing of what it expands.  So its scope is that of the bare registration of the same nodes: the
names in the order in which they first come up (`AnchorScope.names_registers`), each bound to its last
carrier (`AnchorScope.find?_registers`).

`Visits` lists the nodes that a walk comes to, with the map and the scope it comes with; a walk that
succeeds comes to all items and to all values under scalar keys (`Visits.item_of_visit`,
`Visits.value_of_visit`).

* `Visits.scope_eq`: a walk comes to a node with the nodes that begin before it registered.
* `visit_registers`: what a walk leaves behind, and what it knows at each node it comes to.
* `not_forall_knows_before`: an alias that carries an anchor sees itself.
-/

namespace YamlAudit

namespace AnchorScope

/-- The names of a scope, in the order in which they first came up. -/
def names (s : AnchorScope) : List String := s.anchors.map Prod.fst

theorem map_fst_bind (name : String) (node : Node) (anchors : List (String × Node)) :
    (bind name node anchors).map Prod.fst =
      if name ∈ anchors.map Prod.fst then anchors.map Prod.fst
      else anchors.map Prod.fst ++ [name] := by
  induction anchors with
  | nil => rfl
  | cons e rest ih =>
      obtain ⟨n, old⟩ := e
      by_cases hn : n = name
      · simp [bind, hn]
      · have hne : name ≠ n := fun h => hn h.symm
        simp only [bind, hn, if_false, List.map_cons, ih, List.mem_cons, hne, false_or]
        split <;> rfl

/-- A name is added unless it is there. -/
theorem names_register (s : AnchorScope) (n : Node) :
    (s.register n).names = s.names ++ n.anchor.toList.filter (· ∉ s.names) := by
  unfold register
  cases n.anchor with
  | none => simp
  | some name =>
      rw [names, map_fst_bind, ← names]
      split <;> simp_all

/-- The names of some nodes are added in the order in which they first come up. -/
theorem names_registers (s : AnchorScope) (nodes : List Node) :
    (s.registers nodes).names =
      s.names ++ ((nodes.filterMap Node.anchor).filter (· ∉ s.names)).eraseDups := by
  induction nodes generalizing s with
  | nil => simp [registers]
  | cons n rest ih =>
      rw [registers_cons, ih, names_register]
      cases h : n.anchor with
      | none => simp [h]
      | some name =>
          rw [List.filterMap_cons_some h]
          by_cases hmem : name ∈ s.names
          · simp [hmem]
          · have hrest : ((rest.filterMap Node.anchor).filter (· ∉ s.names)).filter (!· == name) =
                (rest.filterMap Node.anchor).filter (· ∉ s.names ++ [name]) := by
              rw [List.filter_filter]
              refine List.filter_congr fun a _ => ?_
              by_cases ha : a = name <;> simp [ha]
            rw [List.filter_cons_of_pos (by simpa using hmem), List.eraseDups_cons, hrest]
            simp [hmem]

/-- A scope binds the anchors of some nodes: the names in the order in which they first come up, each
to the last node that carries it. -/
structure Knows (s : AnchorScope) (nodes : List Node) : Prop where
  names_eq : s.names = (nodes.filterMap Node.anchor).eraseDups
  find?_eq : ∀ name, find? name s.anchors = (Spot.lastCarrier name nodes).map (·.node)

/-- From the empty scope the anchors of the registered nodes are bound, and no others. -/
theorem knows_registers (nodes : List Node) : (empty.registers nodes).Knows nodes where
  names_eq := by
    rw [names_registers]
    simp [names, empty]
  find?_eq name := by
    rw [find?_registers]
    cases Spot.lastCarrier name nodes <;> rfl

end AnchorScope

namespace Spot

/-- A node of a row comes after the nodes of those before it. -/
theorem mem_row_iff {before items : List Node} {c : Spot} :
    c ∈ row before items ↔
      ∃ a item b, items = a ++ item :: b ∧ c = ⟨before ++ Node.nodesOfItems a, item⟩ := by
  induction items generalizing before with
  | nil => simp [row]
  | cons first rest ih =>
      rw [row, List.mem_cons, ih]
      constructor
      · rintro (rfl | ⟨a, item, b, rfl, rfl⟩)
        · exact ⟨[], first, rest, rfl, by simp [Node.nodesOfItems]⟩
        · exact ⟨first :: a, item, b, rfl, by simp [Node.nodesOfItems]⟩
      · rintro ⟨a, item, b, h, rfl⟩
        cases a with
        | nil =>
            cases h
            exact .inl (by simp [Node.nodesOfItems])
        | cons _ a =>
            cases h
            exact .inr ⟨a, item, b, rfl, by simp [Node.nodesOfItems]⟩

/-- A key and its value come after the nodes of the pairs before them. -/
theorem mem_rowOfPairs_iff {before : List Node} {pairs : List (Node × Node)} {p : Spot × Spot} :
    p ∈ rowOfPairs before pairs ↔ ∃ a key value b, pairs = a ++ (key, value) :: b ∧
      p = (⟨before ++ Node.nodesOfPairs a, key⟩,
        ⟨before ++ Node.nodesOfPairs a ++ key.nodes, value⟩) := by
  induction pairs generalizing before with
  | nil => simp [rowOfPairs]
  | cons first rest ih =>
      rw [rowOfPairs, List.mem_cons, ih]
      constructor
      · rintro (rfl | ⟨a, key, value, b, rfl, rfl⟩)
        · exact ⟨[], first.1, first.2, rest, rfl, by simp [Node.nodesOfPairs]⟩
        · exact ⟨first :: a, key, value, b, rfl, by simp [Node.nodesOfPairs]⟩
      · rintro ⟨a, key, value, b, h, rfl⟩
        cases a with
        | nil =>
            cases h
            exact .inl (by simp [Node.nodesOfPairs])
        | cons _ a =>
            cases h
            exact .inr ⟨a, key, value, b, rfl, by simp [Node.nodesOfPairs]⟩

end Spot

namespace RangeMap

open Node (nodesOfItems nodesOfPairs)

variable {t : LineTable} {expand : Expansion}

/-! ### Walks in parts -/

theorem visitItems_append (n : Nat) (a b : List Node) (path : Option (List PathStep)) (m : RangeMap)
    (s : AnchorScope) :
    visitItems t expand n (a ++ b) path m s =
      visitItems t expand n a path m s >>= fun q =>
        visitItems t expand (n + a.length) b path q.1 q.2 := by
  induction a generalizing n m s with
  | nil => rfl
  | cons item rest ih =>
      simp only [List.cons_append, visitItems, ih, bind_assoc, List.length_cons,
        Nat.add_right_comm n 1, Nat.add_assoc]

theorem visitPairs_append (a b : List (Node × Node)) (path : Option (List PathStep)) (m : RangeMap)
    (s : AnchorScope) :
    visitPairs t expand (a ++ b) path m s =
      visitPairs t expand a path m s >>= fun q => visitPairs t expand b path q.1 q.2 := by
  induction a generalizing m s with
  | nil => rfl
  | cons pair rest ih =>
      obtain ⟨key, value⟩ := pair
      cases key <;> simp only [List.cons_append, visitPairs, ih, bind_assoc]

/-- A walk through a sequence walks each item after those before it. -/
theorem visit_item {span : Option Span} {anchor : Option String} {a b : List Node} {item : Node}
    {path : Option (List PathStep)} {m : RangeMap} {s : AnchorScope} {r : RangeMap × AnchorScope}
    (h : visit t expand (.sequence span anchor (a ++ item :: b)) path m s = .ok r) :
    ∃ m' s' range q,
      visitItems t expand 0 a path m (s.register (.sequence span anchor (a ++ item :: b))) =
        .ok (m', s') ∧
      t.nodeRange item = .ok range ∧
      visit t expand item (extend path (itemStep a.length range)) m' s' = .ok q := by
  obtain ⟨q, hq, -⟩ := Except.bind_eq_ok.mp h
  rw [visitItems_append, Nat.zero_add] at hq
  obtain ⟨⟨m', s'⟩, ha, hq⟩ := Except.bind_eq_ok.mp hq
  obtain ⟨range, hrange, hq⟩ := Except.bind_eq_ok.mp hq
  obtain ⟨q, hq, -⟩ := Except.bind_eq_ok.mp hq
  exact ⟨m', s', range, q, ha, hrange, hq⟩

/-- A walk through a mapping walks each value under a scalar key after the pairs before it. -/
theorem visit_value {span : Option Span} {anchor : Option String} {a b : List (Node × Node)}
    {keySpan : Option Span} {keyAnchor : Option String} {name : String} {value : Node}
    {path : Option (List PathStep)} {m : RangeMap} {s : AnchorScope} {r : RangeMap × AnchorScope}
    (h : visit t expand (.mapping span anchor (a ++ (.scalar keySpan keyAnchor name, value) :: b))
      path m s = .ok r) :
    ∃ m' s' k v q,
      visitPairs t expand a path m (s.register
        (.mapping span anchor (a ++ (.scalar keySpan keyAnchor name, value) :: b))) = .ok (m', s') ∧
      t.nodeRange (.scalar keySpan keyAnchor name) = .ok k ∧ t.nodeRange value = .ok v ∧
      visit t expand value (extend path (keyStep name k v)) m'
        (s'.register (.scalar keySpan keyAnchor name)) = .ok q := by
  obtain ⟨q, hq, -⟩ := Except.bind_eq_ok.mp h
  rw [visitPairs_append] at hq
  obtain ⟨⟨m', s'⟩, ha, hq⟩ := Except.bind_eq_ok.mp hq
  obtain ⟨k, hk, hq⟩ := Except.bind_eq_ok.mp hq
  obtain ⟨v, hv, hq⟩ := Except.bind_eq_ok.mp hq
  obtain ⟨q, hq, -⟩ := Except.bind_eq_ok.mp hq
  exact ⟨m', s', k, v, q, ha, hk, hv, hq⟩

/-- The nodes that a walk through a document comes to, with the path, the map and the scope it comes
with: from a sequence to an item after those before it, from a mapping to the value under a scalar key
after the pairs before it, with the key registered. -/
inductive Visits (t : LineTable) (expand : Expansion) (d : Node) (m₀ : RangeMap) (s₀ : AnchorScope) :
    Spot → Option (List PathStep) → RangeMap → AnchorScope → Prop
  | root : Visits t expand d m₀ s₀ (.root d) (some []) m₀ s₀
  | item {o path m s m' s' span anchor a item b r} : Visits t expand d m₀ s₀ o path m s →
      o.node = .sequence span anchor (a ++ item :: b) →
      visitItems t expand 0 a path m (s.register o.node) = .ok (m', s') →
      t.nodeRange item = .ok r →
      Visits t expand d m₀ s₀ ⟨o.before ++ [o.node] ++ nodesOfItems a, item⟩
        (extend path (itemStep a.length r)) m' s'
  | value {o path m s m' s' span anchor a keySpan keyAnchor name value b k v} :
      Visits t expand d m₀ s₀ o path m s →
      o.node = .mapping span anchor (a ++ (.scalar keySpan keyAnchor name, value) :: b) →
      visitPairs t expand a path m (s.register o.node) = .ok (m', s') →
      t.nodeRange (.scalar keySpan keyAnchor name) = .ok k → t.nodeRange value = .ok v →
      Visits t expand d m₀ s₀
        ⟨o.before ++ [o.node] ++ nodesOfPairs a ++ [.scalar keySpan keyAnchor name], value⟩
        (extend path (keyStep name k v)) m' (s'.register (.scalar keySpan keyAnchor name))

namespace Visits

variable {d : Node} {m₀ m : RangeMap} {s₀ s : AnchorScope} {o : Spot}
  {path : Option (List PathStep)}

/-- A walk stays inside its document. -/
theorem inside (h : Visits t expand d m₀ s₀ o path m s) : Spot.Inside (.root d) o := by
  induction h with
  | root => exact .refl _
  | @item o _ _ _ _ _ _ _ a item b _ _ hn _ _ ih =>
      refine ih.tail ?_
      rw [Spot.children_eq_row, Spot.mem_row_iff]
      exact ⟨a, item, b, by rw [hn]; rfl, rfl⟩
  | @value o _ _ _ _ _ _ _ a ks ka name value b _ _ _ hn _ _ _ ih =>
      have hpair : (⟨o.before ++ [o.node] ++ nodesOfPairs a, .scalar ks ka name⟩,
          ⟨o.before ++ [o.node] ++ nodesOfPairs a ++ [.scalar ks ka name], value⟩) ∈ o.pairs :=
        Spot.mem_rowOfPairs_iff.mpr ⟨a, .scalar ks ka name, value, b, by rw [hn]; rfl, rfl⟩
      exact ih.tail (Spot.pairs_mem_children hpair).2

/-- A walk comes to a node with the nodes that begin before it registered. -/
theorem scope_eq (h : Visits t expand d m₀ s₀ o path m s) : s = s₀.registers o.before := by
  induction h with
  | root => rfl
  | item _ _ hitems _ ih =>
      obtain ⟨rfl, -⟩ := visitItems_eq_ok (fun _ _ _ _ _ _ _ h => visit_eq_ok h) hitems
      rw [ih, AnchorScope.register_registers, ← AnchorScope.registers_append]
  | value _ _ hpairs _ _ ih =>
      obtain ⟨rfl, -⟩ := visitPairs_eq_ok (fun _ _ _ _ _ _ _ h => visit_eq_ok h) hpairs
      rw [ih, AnchorScope.register_registers, AnchorScope.register_registers,
        ← AnchorScope.registers_append, ← List.append_assoc]

/-- What a walk that succeeds comes to, it walks with success. -/
theorem exists_visit {r : RangeMap × AnchorScope} (hd : visit t expand d (some []) m₀ s₀ = .ok r)
    (h : Visits t expand d m₀ s₀ o path m s) : ∃ q, visit t expand o.node path m s = .ok q := by
  induction h with
  | root => exact ⟨r, hd⟩
  | item _ hn hitems hr ih =>
      obtain ⟨_, h⟩ := ih
      rw [hn] at h hitems
      obtain ⟨m', s', r', q, hitems', hr', hq⟩ := visit_item h
      cases hitems.symm.trans hitems'
      cases hr.symm.trans hr'
      exact ⟨q, hq⟩
  | value _ hn hpairs hk hv ih =>
      obtain ⟨_, h⟩ := ih
      rw [hn] at h hpairs
      obtain ⟨m', s', k', v', q, hpairs', hk', hv', hq⟩ := visit_value h
      cases hpairs.symm.trans hpairs'
      cases hk.symm.trans hk'
      cases hv.symm.trans hv'
      exact ⟨q, hq⟩

/-- From a sequence a walk that succeeds comes to every item. -/
theorem item_of_visit {r : RangeMap × AnchorScope} (hd : visit t expand d (some []) m₀ s₀ = .ok r)
    (h : Visits t expand d m₀ s₀ o path m s) {span : Option Span} {anchor : Option String}
    {items : List Node} (hn : o.node = .sequence span anchor items) {c : Spot} (hc : c ∈ o.children) :
    ∃ path m s, Visits t expand d m₀ s₀ c path m s := by
  rw [Spot.children_eq_row, Spot.mem_row_iff, hn] at hc
  obtain ⟨a, item, b, hitems, rfl⟩ := hc
  obtain rfl : items = a ++ item :: b := hitems
  obtain ⟨q, hq⟩ := exists_visit hd h
  rw [hn] at hq
  obtain ⟨m', s', range, -, ha, hrange, -⟩ := visit_item hq
  rw [← hn] at ha ⊢
  exact ⟨_, _, _, h.item hn ha hrange⟩

/-- From a mapping a walk that succeeds comes to every value under a scalar key. -/
theorem value_of_visit {r : RangeMap × AnchorScope} (hd : visit t expand d (some []) m₀ s₀ = .ok r)
    (h : Visits t expand d m₀ s₀ o path m s) {p : Spot × Spot} (hp : p ∈ o.pairs)
    (hkey : p.1.node.isScalar) : ∃ path m s, Visits t expand d m₀ s₀ p.2 path m s := by
  obtain ⟨a, key, value, b, hpairs, rfl⟩ := Spot.mem_rowOfPairs_iff.mp hp
  obtain ⟨span, anchor, hn⟩ : ∃ span anchor, o.node = .mapping span anchor (a ++ (key, value) :: b) := by
    cases hn : o.node with
    | mapping span anchor ps => exact ⟨span, anchor, by rw [← hpairs, hn]; rfl⟩
    | _ =>
        rw [hn] at hpairs
        simp [Node.pairs] at hpairs
  obtain ⟨ks, ka, name, rfl⟩ : ∃ ks ka name, key = .scalar ks ka name := by
    cases key <;> first | exact ⟨_, _, _, rfl⟩ | cases hkey
  obtain ⟨q, hq⟩ := exists_visit hd h
  rw [hn] at hq
  obtain ⟨m', s', k, v, -, ha, hk, hv, -⟩ := visit_value hq
  rw [← hn] at ha
  exact ⟨_, _, _, h.value hn ha hk hv⟩

end Visits

/-- The map of a document is what its walk from the root leaves. -/
theorem exists_visit_of_index {t : LineTable} {d : Node} {map : RangeMap}
    (h : index t d = .ok (some map)) :
    ∃ r s, visit t (expansion t d.anchorNames.length) d (some []) (leaf r none) .empty =
      .ok (map, s) := by
  rw [index, build_eq] at h
  obtain ⟨r, -, h⟩ := Except.bind_eq_ok.mp h
  cases r with
  | none => cases h
  | some r =>
      obtain ⟨⟨m, s⟩, hv, h⟩ := Except.bind_eq_ok.mp h
      cases h
      exact ⟨r, s, hv⟩

/-- What a walk knows of anchors is told by document order alone.  A walk that succeeds, with any path,
map and scope and however aliases are expanded, leaves the scope that the bare registration of the node
leaves: nothing else is being expanded, the names not known before come after those that are, in the
order in which they first come up, and each is bound to its last carrier in the node or as before.  In
a walk from an empty scope, as that of the map of a document, the scope at every node that the walk
comes to knows the anchors of the nodes that begin before it, and then that of the node itself; the
walk comes to all items, and to all values under scalar keys. -/
theorem visit_registers (t : LineTable) :
    (∀ expand node path m m' s s', visit t expand node path m s = .ok (m', s') →
      s' = .registerAll node s ∧ s'.expanding = s.expanding ∧
      s'.names = s.names ++ (node.anchorNames.filter (· ∉ s.names)).eraseDups ∧
      ∀ name, AnchorScope.find? name s'.anchors =
        ((Spot.lastCarrier name node.nodes).map (·.node)).or (AnchorScope.find? name s.anchors)) ∧
    (∀ expand d m₀ o path m s, Visits t expand d m₀ .empty o path m s →
      Spot.Inside (.root d) o ∧ s.Knows o.before ∧ (s.register o.node).Knows (o.before ++ [o.node]) ∧
        (s.register o.node).expanding = []) ∧
    ∀ d map, index t d = .ok (some map) → ∃ r s₁,
      visit t (expansion t d.anchorNames.length) d (some []) (leaf r none) .empty = .ok (map, s₁) ∧
      ∀ o path m s, Visits t (expansion t d.anchorNames.length) d (leaf r none) .empty o path m s →
        (∀ span anchor items, o.node = .sequence span anchor items → ∀ c ∈ o.children, ∃ path m s,
          Visits t (expansion t d.anchorNames.length) d (leaf r none) .empty c path m s) ∧
        ∀ p ∈ o.pairs, p.1.node.isScalar → ∃ path m s,
          Visits t (expansion t d.anchorNames.length) d (leaf r none) .empty p.2 path m s := by
  refine ⟨fun expand node path m m' s s' h => ?_, fun expand d m₀ o path m s h => ?_,
    fun d map h => ?_⟩
  · obtain ⟨rfl, -⟩ := visit_eq_ok h
    refine ⟨(AnchorScope.registerAll_eq node s).symm, AnchorScope.registers_expanding _ _, ?_,
      fun name => ?_⟩
    · rw [AnchorScope.names_registers, Node.anchorNames_eq]
    · rw [AnchorScope.find?_registers]
      cases Spot.lastCarrier name node.nodes <;> rfl
  · have hs := h.scope_eq
    subst hs
    rw [AnchorScope.register_registers]
    exact ⟨h.inside, AnchorScope.knows_registers _, AnchorScope.knows_registers _,
      AnchorScope.registers_expanding _ _⟩
  · obtain ⟨r, s₁, hv⟩ := exists_visit_of_index h
    exact ⟨r, s₁, hv, fun o path m s ho => ⟨fun _ _ _ hn _ hc => ho.item_of_visit hv hn hc,
      fun _ hp hkey => ho.value_of_visit hv hp hkey⟩⟩

/-- The tree of `? [&x 1]`, `: &x v` and `k: *x`, where the value under the complex key has lost its
span. -/
def complexKey : Node :=
  .mapping (some ⟨0, 21⟩) none
    [(.sequence (some ⟨2, 8⟩) none [.scalar (some ⟨3, 7⟩) (some "x") "1"],
        .scalar none (some "x") "v"),
      (.scalar (some ⟨16, 17⟩) none "k", .alias (some ⟨19, 21⟩) none (some "x"))]

/-- The alias knows the value under the complex key, which comes after what lies inside it. -/
theorem visit_registers_complexKey :
    ∃ map, index (.ofText "? [&x 1]\n: &x v\nk: *x\n") complexKey = .ok (some map) ∧
      ∃ o m₀ path m s, Visits (.ofText "? [&x 1]\n: &x v\nk: *x\n")
          (expansion (.ofText "? [&x 1]\n: &x v\nk: *x\n") complexKey.anchorNames.length)
          complexKey m₀ .empty o path m s ∧
        o.node.aliasName? = some "x" ∧
        AnchorScope.find? "x" (s.register o.node).anchors = some (.scalar none (some "x") "v") := by
  have hmap : (index (.ofText "? [&x 1]\n: &x v\nk: *x\n") complexKey).toOption.any (·.isSome) =
      true := by
    decide +kernel
  obtain ⟨map?, hmap, hsome⟩ := Except.exists_ok_of_any hmap
  obtain ⟨map, rfl⟩ := Option.isSome_iff_exists.mp hsome
  obtain ⟨-, hknows, hindex⟩ := visit_registers (.ofText "? [&x 1]\n: &x v\nk: *x\n")
  obtain ⟨r, -, -, hcomes⟩ := hindex _ _ hmap
  obtain ⟨path, m, s, hvisits⟩ := (hcomes _ _ _ _ .root).2 _
    (List.mem_of_getElem? (i := 1) rfl) rfl
  obtain ⟨-, -, hself, -⟩ := hknows _ _ _ _ _ _ _ hvisits
  exact ⟨map, hmap, _, _, path, m, s, hvisits, rfl, hself.find?_eq "x"⟩

/-- An alias that carries an anchor knows more than the nodes before it: named by itself, it is its
own target. -/
theorem not_forall_knows_before :
    (¬ ∀ t expand d m₀ o path m s, Visits t expand d m₀ .empty o path m s → o.node.isAlias →
      (s.register o.node).Knows o.before) ∧
    ∃ map, index (.ofText "*x\n") (.alias (some ⟨0, 2⟩) (some "x") (some "x")) = .ok (some map) ∧
      map.target.isSome := by
  constructor
  · intro h
    have hknows := h (.ofText "*x\n") (fun _ _ => .ok none)
      (.alias (some ⟨0, 2⟩) (some "x") (some "x")) (leaf ⟨⟨1, 1⟩, ⟨1, 3⟩, by decide⟩ none) _ _ _ _
      .root rfl
    exact absurd hknows.names_eq (by decide)
  · have hmap : (index (.ofText "*x\n") (.alias (some ⟨0, 2⟩) (some "x") (some "x"))).toOption.any
        (·.any (·.target.isSome)) = true := by
      decide +kernel
    obtain ⟨map?, hmap, hsome⟩ := Except.exists_ok_of_any hmap
    obtain ⟨map, rfl, htarget⟩ := Option.any_eq_true _ _ |>.mp hsome
    exact ⟨map, hmap, htarget⟩

end RangeMap

end YamlAudit
