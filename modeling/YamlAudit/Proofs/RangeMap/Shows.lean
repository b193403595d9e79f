import Mathlib.Logic.Basic
import YamlAudit.Proofs.RangeMap.Leaves

/-!
# RangeMap — what a map shows of a document

`RangeMap.Shows t s node m` says that `m` is the map of `node`, walked with the scope `s`: the same
shape below keys that are scalars, the range of every node, and at an alias the map of the node that
the scope gives for its name, walked with that scope.  Nodes that are not charted (`Node.isCharted`)
have no position, and of a mapping that repeats a key nothing is said about what lies below it.

* `RangeMap.shows_of_writeAll`: the leaves of a tree, written into a new map, show the tree.

The relation does not say how the map was made.  So it is what other modules go by: that a path
leads somewhere, what lies behind an alias and how large a map is are read off it, and none of them
opens the walk again.
-/

namespace YamlAudit

namespace Node

mutual

/-- Whether a node has a position in a map: something below it is recorded. -/
def isCharted : Node → Bool
  | .scalar .. | .alias .. => true
  | .bare .. => false
  | .sequence _ _ items => items.isEmpty || chartsItems items
  | .mapping _ _ pairs => pairs.isEmpty || chartsPairs pairs

/-- Whether some item has a position. -/
def chartsItems : List Node → Bool
  | [] => false
  | item :: rest => item.isCharted || chartsItems rest

/-- Whether some value under a scalar key has a position. -/
def chartsPairs : List (Node × Node) → Bool
  | [] => false
  | (.scalar .., value) :: rest => value.isCharted || chartsPairs rest
  | _ :: rest => chartsPairs rest

end

/-- The texts of the keys that are scalars. -/
def keyNames (pairs : List (Node × Node)) : List String :=
  pairs.filterMap fun p =>
    match p.1 with
    | .scalar _ _ name => some name
    | _ => none

theorem keyNames_cons_of_ne {key value : Node} {rest : List (Node × Node)}
    (h : ∀ span anchor name, key = .scalar span anchor name → False) :
    keyNames ((key, value) :: rest) = keyNames rest := by
  cases key with
  | scalar => exact absurd rfl (h _ _ _)
  | _ => rfl

/-! ### Charted nodes -/

theorem leavesOfItems_eq_nil {t : LineTable} {items : List Node}
    (ih : ∀ item ∈ items, item.isCharted = false → ∀ path s, item.leaves t path s = [])
    (h : chartsItems items = false) (path : Option (List PathStep)) :
    ∀ n s, leavesOfItems t n items path s = [] := by
  induction items with
  | nil => exact fun _ _ => rfl
  | cons item rest ih' =>
      intro n s
      simp only [chartsItems, Bool.or_eq_false_iff] at h
      rw [leavesOfItems, ih item (by simp) h.1, ih' (fun i hi => ih i (by simp [hi])) h.2]
      rfl

theorem leavesOfPairs_eq_nil {t : LineTable} {pairs : List (Node × Node)}
    (ih : ∀ pair ∈ pairs, pair.2.isCharted = false → ∀ path s, pair.2.leaves t path s = [])
    (h : chartsPairs pairs = false) (path : Option (List PathStep)) :
    ∀ s, leavesOfPairs t pairs path s = [] := by
  induction pairs with
  | nil => exact fun _ => rfl
  | cons pair rest ih' =>
      obtain ⟨key, value⟩ := pair
      intro s
      have ihr := ih' fun p hp => ih p (by simp [hp])
      cases key with
      | scalar span anchor name =>
          simp only [chartsPairs, Bool.or_eq_false_iff] at h
          simp only [leavesOfPairs, ihr h.2, List.append_nil]
          exact ih _ List.mem_cons_self h.1 _ _
      | _ => exact ihr h _

/-- A node that is not charted has no leaves. -/
theorem leaves_eq_nil {t : LineTable} {node : Node} (h : node.isCharted = false)
    (path : Option (List PathStep)) (s : AnchorScope) : node.leaves t path s = [] := by
  induction node using Node.induction generalizing path s with
  | scalar | «alias» => simp [isCharted] at h
  | bare => rfl
  | sequence span anchor items ih =>
      simp only [isCharted, Bool.or_eq_false_iff] at h
      simp only [leaves, leavesOfItems_eq_nil (fun i hi hc _ _ => ih i hi hc _ _) h.2, h.1]
      rfl
  | mapping span anchor pairs ih =>
      simp only [isCharted, Bool.or_eq_false_iff] at h
      simp only [leaves, leavesOfPairs_eq_nil (fun p hp hc _ _ => (ih p hp).2 hc _ _) h.2, h.1]
      rfl

/-- All of some nodes have ranges. -/
def Positioned (t : LineTable) (all : List Node) : Prop :=
  ∀ n ∈ all, ∃ r, t.nodeRange n = .ok (some r)

theorem Positioned.range? {t : LineTable} {all : List Node} (h : Positioned t all) {n : Node}
    (hn : n ∈ all) : ∃ r, t.nodeRange n = .ok (some r) ∧ t.range? n = some r := by
  obtain ⟨r, hr⟩ := h n hn
  exact ⟨r, hr, RangeMap.range?_of_nodeRange hr⟩

theorem leafAt_ne_nil {t : LineTable} {node : Node} {r : Range} (h : t.range? node = some r)
    (path : List PathStep) (s : AnchorScope) : node.leafAt t (some path) s ≠ [] := by
  simp [leafAt, h]

theorem leavesOfItems_ne_nil {t : LineTable} {all items : List Node}
    (hpos : Positioned t all) (hall : ∀ n ∈ nodesOfItems items, n ∈ all)
    (ih : ∀ item ∈ items, (∀ n ∈ item.nodes, n ∈ all) → item.isCharted = true →
      ∀ path s, item.leaves t (some path) s ≠ [])
    (h : chartsItems items = true) (path : List PathStep) :
    ∀ n s, leavesOfItems t n items (some path) s ≠ [] := by
  induction items with
  | nil => simp [chartsItems] at h
  | cons item rest ih' =>
      intro n s
      simp only [nodesOfItems, List.mem_append] at hall
      have hitem : ∀ n ∈ item.nodes, n ∈ all := fun n h => hall n (.inl h)
      obtain ⟨r, -, hr⟩ := hpos.range? (hitem _ (mem_nodes_self _))
      rw [chartsItems, Bool.or_eq_true] at h
      rw [leavesOfItems, hr, Ne, List.append_eq_nil_iff, not_and_or]
      rcases h with h | h
      · exact .inl (ih item (by simp) hitem h _ s)
      · exact .inr (ih' (fun n h => hall n (.inr h)) (fun i hi => ih i (by simp [hi])) h _ _)

theorem leavesOfPairs_ne_nil {t : LineTable} {all : List Node} {pairs : List (Node × Node)}
    (hpos : Positioned t all) (hall : ∀ n ∈ nodesOfPairs pairs, n ∈ all)
    (ih : ∀ pair ∈ pairs, (∀ n ∈ pair.2.nodes, n ∈ all) → pair.2.isCharted = true →
      ∀ path s, pair.2.leaves t (some path) s ≠ [])
    (h : chartsPairs pairs = true) (path : List PathStep) :
    ∀ s, leavesOfPairs t pairs (some path) s ≠ [] := by
  induction pairs with
  | nil => simp [chartsPairs] at h
  | cons pair rest ih' =>
      obtain ⟨key, value⟩ := pair
      intro s
      simp only [nodesOfPairs, List.mem_append] at hall
      have hkey : ∀ n ∈ key.nodes, n ∈ all := fun n h => hall n (.inl h)
      have hvalue : ∀ n ∈ value.nodes, n ∈ all := fun n h => hall n (.inr (.inl h))
      have ihr := ih' (fun n h => hall n (.inr (.inr h))) fun p hp => ih p (by simp [hp])
      cases key with
      | scalar span anchor name =>
          obtain ⟨kr, -, hkr⟩ := hpos.range? (hkey _ (mem_nodes_self _))
          obtain ⟨vr, -, hvr⟩ := hpos.range? (hvalue _ (mem_nodes_self _))
          rw [chartsPairs, Bool.or_eq_true] at h
          simp only [leavesOfPairs, hkr, hvr, Ne, List.append_eq_nil_iff, not_and_or]
          rcases h with h | h
          · exact .inl (ih _ List.mem_cons_self hvalue h _ _)
          · exact .inr (ihr h _)
      | _ => exact ihr h _

/-- A charted node whose nodes have ranges has leaves. -/
theorem leaves_ne_nil {t : LineTable} {all : List Node} (hpos : Positioned t all) {node : Node}
    (hall : ∀ n ∈ node.nodes, n ∈ all) (h : node.isCharted = true) (path : List PathStep)
    (s : AnchorScope) : node.leaves t (some path) s ≠ [] := by
  induction node using Node.induction generalizing path s with
  | scalar | «alias» =>
      obtain ⟨r, -, hr⟩ := hpos.range? (hall _ (mem_nodes_self _))
      exact leafAt_ne_nil hr _ _
  | bare => simp [isCharted] at h
  | sequence span anchor items ih =>
      obtain ⟨r, -, hr⟩ := hpos.range? (hall _ (mem_nodes_self _))
      cases items with
      | nil => simpa [leaves, leavesOfItems] using leafAt_ne_nil hr _ _
      | cons item rest =>
          simp only [leaves, Ne, List.append_eq_nil_iff, not_and_or]
          exact .inl (leavesOfItems_ne_nil hpos (fun n hn => hall n (by simp [nodes, hn]))
            (fun i hi hn hc _ _ => ih i hi hn hc _ _) (by simpa [isCharted] using h) _ _ _)
  | mapping span anchor pairs ih =>
      obtain ⟨r, -, hr⟩ := hpos.range? (hall _ (mem_nodes_self _))
      cases pairs with
      | nil => simpa [leaves, leavesOfPairs] using leafAt_ne_nil hr _ _
      | cons pair rest =>
          simp only [leaves, Ne, List.append_eq_nil_iff, not_and_or]
          exact .inl (leavesOfPairs_ne_nil hpos (fun n hn => hall n (by simp [nodes, hn]))
            (fun p hp hn hc _ _ => (ih p hp).2 hn hc _ _) (by simpa [isCharted] using h) _ _)

end Node

namespace RangeMap

mutual

/-- A map shows a node that is walked with a scope. -/
inductive Shows (t : LineTable) : AnchorScope → Node → RangeMap → Prop
  | scalar {s span anchor value r key} :
      t.nodeRange (.scalar span anchor value) = .ok (some r) →
      Shows t s (.scalar span anchor value) ⟨r, key, [], none⟩
  | bare {s span anchor r key} : t.nodeRange (.bare span anchor) = .ok (some r) →
      Shows t s (.bare span anchor) ⟨r, key, [], none⟩
  | unresolved {s span anchor source r key} :
      t.nodeRange (.alias span anchor source) = .ok (some r) →
      source.bind (s.register (.alias span anchor source)).referent = none →
      Shows t s (.alias span anchor source) ⟨r, key, [], none⟩
  | resolved {s span anchor name node r key target} :
      t.nodeRange (.alias span anchor (some name)) = .ok (some r) →
      (s.register (.alias span anchor (some name))).referent name = some node →
      Shows t ((s.register (.alias span anchor (some name))).entering name) node target →
      target.key = none →
      Shows t s (.alias span anchor (some name)) ⟨r, key, [], some target⟩
  | sequence {s span anchor items r key children} :
      t.nodeRange (.sequence span anchor items) = .ok (some r) →
      ShowsItems t (s.register (.sequence span anchor items)) 0 items children →
      Shows t s (.sequence span anchor items) ⟨r, key, children, none⟩
  | mapping {s span anchor pairs r key children} :
      t.nodeRange (.mapping span anchor pairs) = .ok (some r) →
      ((Node.keyNames pairs).Nodup →
        ShowsPairs t (s.register (.mapping span anchor pairs)) pairs children) →
      Shows t s (.mapping span anchor pairs) ⟨r, key, children, none⟩

/-- Children show the items of a sequence from position `n` on. -/
inductive ShowsItems (t : LineTable) :
    AnchorScope → Nat → List Node → List (Segment × RangeMap) → Prop
  | nil {s n} : ShowsItems t s n [] []
  | cons {s n item rest m children} : item.isCharted = true → Shows t s item m → m.key = none →
      ShowsItems t (s.registers item.nodes) (n + 1) rest children →
      ShowsItems t s n (item :: rest) ((.index n, m) :: children)
  | skip {s n item rest children} : item.isCharted = false →
      ShowsItems t (s.registers item.nodes) (n + 1) rest children →
      ShowsItems t s n (item :: rest) children

/-- Children show the values of a mapping. -/
inductive ShowsPairs (t : LineTable) :
    AnchorScope → List (Node × Node) → List (Segment × RangeMap) → Prop
  | nil {s} : ShowsPairs t s [] []
  | cons {s span anchor name value rest m r children} : value.isCharted = true →
      t.nodeRange (.scalar span anchor name) = .ok (some r) →
      Shows t (s.register (.scalar span anchor name)) value m → m.key = some r →
      ShowsPairs t ((s.register (.scalar span anchor name)).registers value.nodes) rest children →
      ShowsPairs t s ((.scalar span anchor name, value) :: rest) ((.key name, m) :: children)
  | skip {s key value rest children} :
      (∀ span anchor name, key = .scalar span anchor name → value.isCharted = false) →
      ShowsPairs t ((s.registers key.nodes).registers value.nodes) rest children →
      ShowsPairs t s ((key, value) :: rest) children

end

/-! ### Writing the leaves of a tree -/

/-- A target that fits a name in a scope: none when the scope has no node for the name, and else the
map of that node. -/
def IsTarget (t : LineTable) (s : AnchorScope) (source : Option String) :
    Option RangeMap → Prop
  | none => source.bind s.referent = none
  | some m => ∃ name node, source = some name ∧ s.referent name = some node ∧
      Shows t (s.entering name) node m ∧ m.key = none

section Writing

variable {t : LineTable} {expand : Expansion} {all : List Node} {P : AnchorScope → Prop}

/-- Writing a node that is no alias at the root only sets the range there. -/
theorem writeAll_leafAt {node : Node} {s : AnchorScope} {r : Range} {key : Option Range}
    {m : RangeMap} (hr : t.nodeRange node = .ok (some r)) (hn : Node.leafAt.hop s node = none)
    (h : writeAll expand (node.leafAt t (some []) s) (leaf r key) = .ok m) : m = leaf r key := by
  simp only [Node.leafAt, range?_of_nodeRange hr, hn] at h
  cases h
  rfl

theorem lookup_append {segment : Segment} (a b : List (Segment × RangeMap)) :
    lookup segment (a ++ b) = (lookup segment a).or (lookup segment b) := by
  induction a with
  | nil => simp [lookup]
  | cons e rest ih =>
      obtain ⟨s, m⟩ := e
      by_cases h : s = segment <;> simp [lookup, h, ih]

/-- A child put at the end leaves what lies at the other segments as it was. -/
theorem child_append_of_ne {segment other : Segment} (h : segment ≠ other) (m c : RangeMap) :
    child { m with children := m.children ++ [(segment, c)] } other = m.child other := by
  rw [child, child, lookup_append]
  simp [lookup, h]

/-- The leaves of a child whose segment is new end up in a new child at the end. -/
theorem writeAll_child {node : Node} (step : PathStep) {s : AnchorScope} {m m' : RangeMap}
    (hne : node.leaves t (some []) s ≠ []) (hnew : m.child step.segment = none)
    (h : writeAll expand (node.leaves t (some [step]) s) m = .ok m') :
    ∃ c, writeAll expand (node.leaves t (some []) s) (leaf step.value step.key) = .ok c ∧
      m' = { m with children := m.children ++ [(step.segment, c)] } := by
  rw [show (some [step] : Option (List PathStep)) = (some []).map (step :: ·) from rfl,
    Node.leaves_map, writeAll_under step hne, childOr, hnew, Option.getD_none] at h
  cases hc : writeAll expand (node.leaves t (some []) s) (leaf step.value step.key) with
  | error e => rw [hc] at h; cases h
  | ok c =>
      rw [hc] at h
      cases h
      exact ⟨c, rfl, by rw [withChild, put_of_lookup_none hnew]⟩

theorem showsItems_of_writeAll (hpos : Node.Positioned t all) (hP : KeptBy all P)
    {items : List Node} (hall : ∀ n ∈ Node.nodesOfItems items, n ∈ all)
    (ih : ∀ item ∈ items, (∀ n ∈ item.nodes, n ∈ all) → ∀ s r key m, P s →
      t.nodeRange item = .ok (some r) →
      writeAll expand (item.leaves t (some []) s) (leaf r key) = .ok m →
        Shows t s item m ∧ m.key = key) :
    ∀ {n s m m'}, P s → (∀ k : Nat, n ≤ k → m.child (.index k) = none) →
      writeAll expand (Node.leavesOfItems t n items (some []) s) m = .ok m' →
      ∃ cs, m' = { m with children := m.children ++ cs } ∧ ShowsItems t s n items cs := by
  induction items with
  | nil =>
      intro n s m m' _ _ h
      cases h
      exact ⟨[], by cases m; simp, .nil⟩
  | cons item rest ih' =>
      intro n s m m' hs hfree h
      simp only [Node.nodesOfItems, List.mem_append] at hall
      have hitem : ∀ n ∈ item.nodes, n ∈ all := fun n h => hall n (.inl h)
      have hs' := hP.registers hitem hs
      have ihr := @ih' (fun n h => hall n (.inr h)) fun i hi => ih i (by simp [hi])
      obtain ⟨r, hr, hr'⟩ := hpos.range? (hitem _ (Node.mem_nodes_self _))
      rw [Node.leavesOfItems, writeAll_append, hr'] at h
      obtain ⟨m₁, h₁, h₂⟩ := Except.bind_eq_ok.mp h
      cases hc : item.isCharted with
      | false =>
          rw [Node.leaves_eq_nil hc] at h₁
          cases h₁
          obtain ⟨cs, hm, hcs⟩ := ihr hs' (fun k hk => hfree k (by omega)) h₂
          exact ⟨cs, hm, .skip hc hcs⟩
      | true =>
          obtain ⟨c, hw, rfl⟩ := writeAll_child ⟨.index n, r, none⟩
            (Node.leaves_ne_nil hpos hitem hc [] s) (hfree n (Nat.le_refl n)) h₁
          obtain ⟨hshow, hkey⟩ := ih item (by simp) hitem s r none c hs hr hw
          -- the new child is the last one, so the later positions are still free
          have hfree' : ∀ k : Nat, n + 1 ≤ k →
              child { m with children := m.children ++ [(.index n, c)] } (.index k) = none := by
            intro k hk
            have hne : Segment.index (n : Int) ≠ .index (k : Int) := by
              intro h; injection h with h; omega
            rw [child_append_of_ne hne, hfree k (by omega)]
          obtain ⟨cs, hm, hcs⟩ := ihr hs' hfree' h₂
          exact ⟨(.index n, c) :: cs, by simp [hm], .cons hc hshow hkey hcs⟩

theorem showsPairs_of_writeAll (hpos : Node.Positioned t all) (hP : KeptBy all P)
    {pairs : List (Node × Node)} (hall : ∀ n ∈ Node.nodesOfPairs pairs, n ∈ all)
    (ih : ∀ pair ∈ pairs, (∀ n ∈ pair.2.nodes, n ∈ all) → ∀ s r key m, P s →
      t.nodeRange pair.2 = .ok (some r) →
      writeAll expand (pair.2.leaves t (some []) s) (leaf r key) = .ok m →
        Shows t s pair.2 m ∧ m.key = key) (hnodup : (Node.keyNames pairs).Nodup) :
    ∀ {s m m'}, P s → (∀ name ∈ Node.keyNames pairs, m.child (.key name) = none) →
      writeAll expand (Node.leavesOfPairs t pairs (some []) s) m = .ok m' →
      ∃ cs, m' = { m with children := m.children ++ cs } ∧ ShowsPairs t s pairs cs := by
  induction pairs with
  | nil =>
      intro s m m' _ _ h
      cases h
      exact ⟨[], by cases m; simp, .nil⟩
  | cons pair rest ih' =>
      obtain ⟨key, value⟩ := pair
      intro s m m' hs hfree h
      simp only [Node.nodesOfPairs, List.mem_append] at hall
      have hkeys : ∀ n ∈ key.nodes, n ∈ all := fun n h => hall n (.inl h)
      have hvalues : ∀ n ∈ value.nodes, n ∈ all := fun n h => hall n (.inr (.inl h))
      have hs' := hP.registers hvalues (hP.registers hkeys hs)
      have ihr := @ih' (fun n h => hall n (.inr (.inr h))) fun p hp => ih p (by simp [hp])
      by_cases hkey : ∃ span anchor name, key = .scalar span anchor name
      · obtain ⟨span, anchor, name, rfl⟩ := hkey
        have hnames : Node.keyNames ((Node.scalar span anchor name, value) :: rest) =
            name :: Node.keyNames rest := rfl
        rw [hnames] at hnodup hfree
        obtain ⟨hnot, hnodup⟩ := List.nodup_cons.mp hnodup
        obtain ⟨kr, hkr, hkr'⟩ := hpos.range? (hkeys _ (Node.mem_nodes_self _))
        obtain ⟨vr, hvr, hvr'⟩ := hpos.range? (hvalues _ (Node.mem_nodes_self _))
        simp only [Node.leavesOfPairs, writeAll_append, hkr', hvr'] at h
        obtain ⟨m₁, h₁, h₂⟩ := Except.bind_eq_ok.mp h
        cases hc : value.isCharted with
        | false =>
            rw [Node.leaves_eq_nil hc] at h₁
            cases h₁
            obtain ⟨cs, hm, hcs⟩ := ihr hnodup hs' (fun k hk => hfree k (by simp [hk])) h₂
            exact ⟨cs, hm, .skip (fun _ _ _ _ => hc) hcs⟩
        | true =>
            obtain ⟨c, hw, rfl⟩ := writeAll_child ⟨.key name, vr, some kr⟩
              (Node.leaves_ne_nil hpos hvalues hc [] _) (hfree name (by simp)) h₁
            obtain ⟨hshow, hkey⟩ := ih _ List.mem_cons_self hvalues _ vr (some kr) c
              (hP _ (hkeys _ (Node.mem_nodes_self _)) s hs) hvr hw
            -- no later key has the text of the new child
            have hfree' : ∀ k ∈ Node.keyNames rest,
                child { m with children := m.children ++ [(.key name, c)] } (.key k) = none := by
              intro k hk
              have hne : Segment.key name ≠ .key k := by
                intro h; injection h with h; exact hnot (h ▸ hk)
              rw [child_append_of_ne hne, hfree k (by simp [hk])]
            obtain ⟨cs, hm, hcs⟩ := ihr hnodup hs' hfree' h₂
            exact ⟨(.key name, c) :: cs, by simp [hm], .cons hc hkr hshow hkey hcs⟩
      -- a key that is no scalar gives its value no position
      · have hne : ∀ span anchor name, key = .scalar span anchor name → False :=
          fun _ _ _ h => hkey ⟨_, _, _, h⟩
        rw [Node.keyNames_cons_of_ne hne] at hnodup hfree
        rw [Node.leavesOfPairs.eq_3 _ _ _ _ _ _ hne] at h
        obtain ⟨cs, hm, hcs⟩ := ihr hnodup hs' hfree h
        exact ⟨cs, hm, .skip (fun _ _ _ h => (hne _ _ _ h).elim) hcs⟩

/-- Leaves below the root leave the root itself as it is. -/
theorem writeAll_below {ls : List Leaf} (hls : ∀ l ∈ ls, l.path ≠ []) {m m' : RangeMap}
    (h : writeAll expand ls m = .ok m') :
    m'.value = m.value ∧ m'.key = m.key ∧ m'.target = m.target := by
  induction ls generalizing m with
  | nil => cases h; exact ⟨rfl, rfl, rfl⟩
  | cons l rest ih =>
      obtain ⟨m₁, h₁, h₂⟩ := Except.bind_eq_ok.mp h
      obtain ⟨step, path, hpath⟩ := List.exists_cons_of_ne_nil (hls l (by simp))
      obtain ⟨hv, hk, ht⟩ := ih (fun x hx => hls x (by simp [hx])) h₂
      rw [hv, hk, ht]
      have hl : l = Leaf.under step { l with path } := by
        cases l; simp only [Leaf.under] at hpath ⊢; rw [hpath]
      rw [hl, write_under] at h₁
      cases hc : Leaf.write expand { l with path } (m.childOr step) with
      | error e => rw [hc] at h₁; cases h₁
      | ok c => rw [hc] at h₁; cases h₁; exact ⟨rfl, rfl, rfl⟩

theorem path_ne_nil_of_mem_leavesOfPairs (hpos : Node.Positioned t all)
    {pairs : List (Node × Node)} (hall : ∀ n ∈ Node.nodesOfPairs pairs, n ∈ all) :
    ∀ {s l}, l ∈ Node.leavesOfPairs t pairs (some []) s → l.path ≠ [] := by
  induction pairs with
  | nil => intro s l h; cases h
  | cons pair rest ih =>
      obtain ⟨key, value⟩ := pair
      intro s l h
      simp only [Node.nodesOfPairs, List.mem_append] at hall
      have ihr := @ih fun n h => hall n (.inr (.inr h))
      cases key with
      | scalar span anchor name =>
          obtain ⟨kr, -, hkr⟩ := hpos.range? (hall _ (.inl (Node.mem_nodes_self _)))
          obtain ⟨vr, -, hvr⟩ := hpos.range? (hall _ (.inr (.inl (Node.mem_nodes_self value))))
          simp only [Node.leavesOfPairs, hkr, hvr, keyStep] at h
          rcases List.mem_append.mp h with h | h
          · rw [show extend (some []) (some ⟨.key name, vr, some kr⟩) =
                (some []).map (⟨.key name, vr, some kr⟩ :: ·) from rfl, Node.leaves_map] at h
            obtain ⟨l', -, rfl⟩ := List.mem_map.mp h
            simp [Leaf.under]
          · exact ihr h
      | _ => exact ihr h

/-- The leaves of a tree, written into a new map, show the tree. -/
theorem shows_of_writeAll (hpos : Node.Positioned t all) (hP : KeptBy all P)
    (he : ∀ s source target, P s → expand s source = .ok target → IsTarget t s source target)
    {node : Node} (hall : ∀ n ∈ node.nodes, n ∈ all) {s : AnchorScope} {r : Range}
    {key : Option Range} {m : RangeMap} (hs : P s) (hr : t.nodeRange node = .ok (some r))
    (h : writeAll expand (node.leaves t (some []) s) (leaf r key) = .ok m) :
    Shows t s node m ∧ m.key = key := by
  induction node using Node.induction generalizing s r key m with
  | scalar span anchor value =>
      obtain rfl := writeAll_leafAt hr rfl h
      exact ⟨.scalar hr, rfl⟩
  | bare span anchor => cases h; exact ⟨.bare hr, rfl⟩
  | «alias» span anchor source =>
      have hs' := hP _ (hall _ (Node.mem_nodes_self _)) s hs
      simp only [Node.leaves, Node.leafAt, range?_of_nodeRange hr, Node.leafAt.hop] at h
      obtain ⟨m₁, h₁, h₂⟩ := Except.bind_eq_ok.mp h
      cases h₂
      simp only [Leaf.write, leaf, targetAt] at h₁
      -- the alias writes one leaf, whose target is what it expands to
      cases ht : expand (s.register (.alias span anchor source)) source with
      | error e => rw [ht] at h₁; cases h₁
      | ok target =>
          rw [ht] at h₁
          cases h₁
          have htarget := he _ _ _ hs' ht
          cases target with
          | none => exact ⟨.unresolved hr htarget, rfl⟩
          | some m =>
              obtain ⟨name, node, rfl, href, hshow, hkey⟩ := htarget
              exact ⟨.resolved hr href hshow hkey, rfl⟩
  | sequence span anchor items ih =>
      have hs' := hP _ (hall _ (Node.mem_nodes_self _)) s hs
      cases items with
      | nil =>
          obtain rfl := writeAll_leafAt hr rfl h
          exact ⟨.sequence hr .nil, rfl⟩
      | cons item rest =>
          simp only [Node.leaves, List.isEmpty_cons, Bool.false_eq_true, if_false,
            List.append_nil] at h
          obtain ⟨cs, rfl, hcs⟩ := showsItems_of_writeAll hpos hP
            (fun n hn => hall n (by simp [Node.nodes, hn]))
            (fun i hi hn s r key m => ih i hi hn) hs' (fun _ _ => rfl) h
          exact ⟨.sequence hr hcs, rfl⟩
  | mapping span anchor pairs ih =>
      have hs' := hP _ (hall _ (Node.mem_nodes_self _)) s hs
      cases pairs with
      | nil =>
          obtain rfl := writeAll_leafAt hr rfl h
          exact ⟨.mapping hr fun _ => .nil, rfl⟩
      | cons pair rest =>
          simp only [Node.leaves, List.isEmpty_cons, Bool.false_eq_true, if_false,
            List.append_nil] at h
          -- all leaves lie below the mapping, so its own range and target stay
          obtain ⟨hv, hk, ht⟩ := writeAll_below (fun _ => path_ne_nil_of_mem_leavesOfPairs hpos
            fun n hn => hall n (by simp [Node.nodes, hn])) h
          obtain ⟨value, mkey, children, target⟩ := m
          obtain ⟨rfl, rfl, rfl⟩ : value = r ∧ mkey = key ∧ target = none := ⟨hv, hk, ht⟩
          refine ⟨.mapping hr fun hnodup => ?_, rfl⟩
          obtain ⟨cs, hm, hcs⟩ := showsPairs_of_writeAll hpos hP
            (fun n hn => hall n (by simp [Node.nodes, hn]))
            (fun p hp hn s r key m => (ih p hp).2 hn) hnodup hs' (fun _ _ => rfl) h
          obtain rfl : children = cs := by simpa [leaf] using congrArg RangeMap.children hm
          exact hcs

end Writing

end RangeMap

end YamlAudit
