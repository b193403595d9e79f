import YamlAudit.Proofs.Basic
import YamlAudit.Proofs.Document.Order
import YamlAudit.RangeMap.Index

/-!
# RangeMap — a walk as a list of leaves

A walk through a document does two things, and they do not depend on each other: it registers all
nodes in document order, and it writes the leaves it records into the map, one after another.
`Node.leaves` lists these leaves with their paths, `RangeMap.writeAll` writes them.

* `RangeMap.visit_eq_ok`: a walk that succeeds has registered the nodes of the tree and written its
  leaves.
* `RangeMap.exists_visit_eq_ok`: a walk succeeds when all ranges and expansions do.
* `RangeMap.writeAll_under`: leaves that share their first step are written into the child below
  that step, as if it were a map of its own.
-/

namespace YamlAudit

/-- The range of a node, if it has one. -/
def LineTable.range? (t : LineTable) (node : Node) : Option Range :=
  match t.nodeRange node with
  | .ok r => r
  | .error _ => none

/-- A recorded leaf: the path to it, its range, and for an alias the scope there and its name. -/
structure Leaf where
  path : List PathStep
  range : Range
  hop : Option (AnchorScope × Option String)

namespace Leaf

/-- The same leaf, one step further down. -/
def under (step : PathStep) (l : Leaf) : Leaf := { l with path := step :: l.path }

/-- Writes a leaf into a map.  An alias is expanded only if its position has no target yet. -/
def write (expand : Expansion) (l : Leaf) (m : RangeMap) : Except Reversed RangeMap :=
  match l.hop with
  | none => .ok (RangeMap.record l.range none l.path m)
  | some (scope, source) =>
    match m.targetAt l.path with
    | some _ => .ok (RangeMap.record l.range none l.path m)
    | none => (expand scope source).map fun target => RangeMap.record l.range target l.path m

end Leaf

namespace Node

/-- The leaf at a node whose path has positions, if the node has one too. -/
def leafAt (t : LineTable) (node : Node) (path : Option (List PathStep)) (scope : AnchorScope) :
    List Leaf :=
  match t.range? node, path with
  | some range, some steps => [⟨steps, range, hop node⟩]
  | _, _ => []
where
  /-- What an alias needs to be expanded. -/
  hop : Node → Option (AnchorScope × Option String)
    | .alias _ _ source => some (scope, source)
    | _ => none

mutual

/-- The leaves that a walk records, in document order. -/
def leaves (t : LineTable) : Node → Option (List PathStep) → AnchorScope → List Leaf
  | .scalar span anchor value, path, s =>
    leafAt t (.scalar span anchor value) path (s.register (.scalar span anchor value))
  | .alias span anchor source, path, s =>
    leafAt t (.alias span anchor source) path (s.register (.alias span anchor source))
  | .bare _ _, _, _ => []
  | .sequence span anchor items, path, s =>
    let s := s.register (.sequence span anchor items)
    leavesOfItems t 0 items path s ++
      if items.isEmpty then leafAt t (.sequence span anchor items) path s else []
  | .mapping span anchor pairs, path, s =>
    let s := s.register (.mapping span anchor pairs)
    leavesOfPairs t pairs path s ++
      if pairs.isEmpty then leafAt t (.mapping span anchor pairs) path s else []

/-- The leaves among the items of a sequence, from position `n` on. -/
def leavesOfItems (t : LineTable) :
    Nat → List Node → Option (List PathStep) → AnchorScope → List Leaf
  | _, [], _, _ => []
  | n, item :: rest, path, s =>
    leaves t item (RangeMap.extend path (RangeMap.itemStep n (t.range? item))) s ++
      leavesOfItems t (n + 1) rest path (s.registers item.nodes)

/-- The leaves among the values of a mapping. -/
def leavesOfPairs (t : LineTable) :
    List (Node × Node) → Option (List PathStep) → AnchorScope → List Leaf
  | [], _, _ => []
  | (.scalar span anchor name, value) :: rest, path, s =>
    let key := Node.scalar span anchor name
    let s := s.register key
    leaves t value (RangeMap.extend path (RangeMap.keyStep name (t.range? key) (t.range? value))) s
      ++ leavesOfPairs t rest path (s.registers value.nodes)
  | (key, value) :: rest, path, s =>
    leavesOfPairs t rest path ((s.registers key.nodes).registers value.nodes)

end

end Node

namespace RangeMap

/-- Writes leaves one after another. -/
def writeAll (expand : Expansion) : List Leaf → RangeMap → Except Reversed RangeMap
  | [], m => .ok m
  | l :: rest, m => do writeAll expand rest (← l.write expand m)

/-! ### The walk and its leaves -/

section Walk

variable {t : LineTable} {expand : Expansion}

/-- Leaves are written one after another, and the first that cannot be written ends it. -/
theorem writeAll_append {a b : List Leaf} {m : RangeMap} :
    writeAll expand (a ++ b) m = writeAll expand a m >>= writeAll expand b := by
  induction a generalizing m with
  | nil => rfl
  | cons l rest ih =>
      simp only [List.cons_append, writeAll, ih, bind_assoc]

/-- The range of a node that has one, or none at all. -/
theorem range?_of_nodeRange {node : Node} {r : Option Range} (h : t.nodeRange node = .ok r) :
    t.range? node = r := by
  simp [LineTable.range?, h]

/-- What a node itself writes: one leaf if it is one and has a path. -/
theorem recordLeaf_eq_ok {node : Node} {path : Option (List PathStep)} {s : AnchorScope}
    {m m' : RangeMap} (h : recordLeaf t expand node path s m = .ok m') :
    writeAll expand (node.leafAt t path s) m = .ok m' := by
  obtain ⟨r, hr, h⟩ := Except.bind_eq_ok.mp h
  simp only [Node.leafAt, range?_of_nodeRange hr]
  cases r with
  | none => exact h
  | some range =>
      cases path with
      | none => exact h
      | some steps =>
          cases node with
          | «alias» span anchor source =>
              simp only [writeAll, Node.leafAt.hop, Leaf.write] at h ⊢
              cases htarget : m.targetAt steps with
              | some target => simp only [htarget] at h ⊢; exact h
              | none =>
                  simp only [htarget] at h ⊢
                  obtain ⟨target, ht, h⟩ := Except.bind_eq_ok.mp h
                  rw [ht]
                  exact h
          | _ => exact h

/-- The items of a sequence are walked through in turn, each in the scope its predecessors leave. -/
theorem visitItems_eq_ok {items : List Node} {path : Option (List PathStep)}
    (ih : ∀ item ∈ items, ∀ path m s m' s', visit t expand item path m s = .ok (m', s') →
      s' = s.registers item.nodes ∧ writeAll expand (item.leaves t path s) m = .ok m') :
    ∀ {n : Nat} {m m' : RangeMap} {s s' : AnchorScope},
      visitItems t expand n items path m s = .ok (m', s') →
        s' = s.registers (Node.nodesOfItems items) ∧
          writeAll expand (Node.leavesOfItems t n items path s) m = .ok m' := by
  induction items with
  | nil => intro n m m' s s' h; cases h; exact ⟨rfl, rfl⟩
  | cons item rest ih' =>
      intro n m m' s s' h
      obtain ⟨r, hr, h⟩ := Except.bind_eq_ok.mp h
      obtain ⟨⟨m₁, s₁⟩, h₁, h₂⟩ := Except.bind_eq_ok.mp h
      obtain ⟨rfl, hw⟩ := ih item (by simp) _ _ _ _ _ h₁
      obtain ⟨rfl, hw'⟩ := ih' (fun i hi => ih i (by simp [hi])) h₂
      refine ⟨by simp [Node.nodesOfItems], ?_⟩
      rw [Node.leavesOfItems, writeAll_append, range?_of_nodeRange hr, hw]
      exact hw'

/-- So are the values of a mapping, whose keys only register. -/
theorem visitPairs_eq_ok {pairs : List (Node × Node)} {path : Option (List PathStep)}
    (ih : ∀ pair ∈ pairs, ∀ path m s m' s', visit t expand pair.2 path m s = .ok (m', s') →
      s' = s.registers pair.2.nodes ∧ writeAll expand (pair.2.leaves t path s) m = .ok m') :
    ∀ {m m' : RangeMap} {s s' : AnchorScope},
      visitPairs t expand pairs path m s = .ok (m', s') →
        s' = s.registers (Node.nodesOfPairs pairs) ∧
          writeAll expand (Node.leavesOfPairs t pairs path s) m = .ok m' := by
  induction pairs with
  | nil => intro m m' s s' h; cases h; exact ⟨rfl, rfl⟩
  | cons pair rest ih' =>
      obtain ⟨key, value⟩ := pair
      intro m m' s s' h
      have ihr := @ih' fun p hp => ih p (by simp [hp])
      -- what lies below a key that is no scalar registers its nodes and writes nothing
      by_cases hkey : ∃ span anchor name, key = .scalar span anchor name
      · obtain ⟨span, anchor, name, rfl⟩ := hkey
        obtain ⟨kr, hkr, h⟩ := Except.bind_eq_ok.mp h
        obtain ⟨vr, hvr, h⟩ := Except.bind_eq_ok.mp h
        obtain ⟨⟨m₁, s₁⟩, h₁, h₂⟩ := Except.bind_eq_ok.mp h
        obtain ⟨rfl, hw⟩ := ih _ List.mem_cons_self _ _ _ _ _ h₁
        obtain ⟨rfl, hw'⟩ := ihr h₂
        refine ⟨by simp [Node.nodesOfPairs, Node.nodes], ?_⟩
        simp only [Node.leavesOfPairs, writeAll_append, range?_of_nodeRange hkr,
          range?_of_nodeRange hvr]
        rw [hw]
        exact hw'
      · have hne : ∀ span anchor name, key = .scalar span anchor name → False :=
          fun _ _ _ h => hkey ⟨_, _, _, h⟩
        rw [visitPairs.eq_3 _ _ _ _ _ _ _ _ hne] at h
        obtain ⟨rfl, hw⟩ := ihr h
        simp only [AnchorScope.registerAll_eq] at hw ⊢
        refine ⟨by simp [Node.nodesOfPairs], ?_⟩
        rw [Node.leavesOfPairs.eq_3 _ _ _ _ _ _ hne]
        exact hw

/-- A walk registers the nodes of the tree and writes its leaves. -/
theorem visit_eq_ok {node : Node} {path : Option (List PathStep)} {m m' : RangeMap}
    {s s' : AnchorScope} (h : visit t expand node path m s = .ok (m', s')) :
    s' = s.registers node.nodes ∧ writeAll expand (node.leaves t path s) m = .ok m' := by
  induction node using Node.induction generalizing path m m' s s' with
  | scalar span anchor value =>
      obtain ⟨m₁, h₁, h₂⟩ := Except.bind_eq_ok.mp h
      cases h₂
      exact ⟨rfl, recordLeaf_eq_ok h₁⟩
  | «alias» span anchor source =>
      obtain ⟨m₁, h₁, h₂⟩ := Except.bind_eq_ok.mp h
      cases h₂
      exact ⟨rfl, recordLeaf_eq_ok h₁⟩
  | bare span anchor => cases h; exact ⟨rfl, rfl⟩
  | sequence span anchor items ih =>
      obtain ⟨⟨m₁, s₁⟩, h₁, h₂⟩ := Except.bind_eq_ok.mp h
      obtain ⟨rfl, hw⟩ := visitItems_eq_ok (fun i hi _ _ _ _ _ => ih i hi) h₁
      rw [Node.leaves, writeAll_append, hw]
      -- the leaf of an empty sequence comes behind its items, of which there are none
      cases items with
      | nil =>
          obtain ⟨m₂, h₃, h₄⟩ := Except.bind_eq_ok.mp h₂
          cases h₄
          exact ⟨rfl, recordLeaf_eq_ok h₃⟩
      | cons => cases h₂; exact ⟨rfl, rfl⟩
  | mapping span anchor pairs ih =>
      obtain ⟨⟨m₁, s₁⟩, h₁, h₂⟩ := Except.bind_eq_ok.mp h
      obtain ⟨rfl, hw⟩ := visitPairs_eq_ok (fun p hp _ _ _ _ _ => (ih p hp).2) h₁
      rw [Node.leaves, writeAll_append, hw]
      cases pairs with
      | nil =>
          obtain ⟨m₂, h₃, h₄⟩ := Except.bind_eq_ok.mp h₂
          cases h₄
          exact ⟨rfl, recordLeaf_eq_ok h₃⟩
      | cons => cases h₂; exact ⟨rfl, rfl⟩

/-! ### Walks that succeed -/

/-- A property of scopes that registering any of some nodes keeps. -/
def KeptBy (all : List Node) (P : AnchorScope → Prop) : Prop :=
  ∀ n ∈ all, ∀ s, P s → P (s.register n)

variable {all : List Node} {P : AnchorScope → Prop}

/-- What registering one node keeps, registering several keeps. -/
theorem KeptBy.registers (hP : KeptBy all P) {ns : List Node} (hns : ∀ n ∈ ns, n ∈ all)
    {s : AnchorScope} (hs : P s) : P (s.registers ns) := by
  induction ns generalizing s with
  | nil => exact hs
  | cons n rest ih =>
      exact ih (fun x hx => hns x (by simp [hx])) (hP n (hns n (by simp)) s hs)

/-- A node writes its leaf if its range and its expansion succeed. -/
theorem exists_recordLeaf_eq_ok {node : Node} (hr : ∃ r, t.nodeRange node = .ok r)
    (he : ∀ s source, P s → ∃ r, expand s source = .ok r) (path : Option (List PathStep))
    {s : AnchorScope} (hs : P s) (m : RangeMap) :
    ∃ m', recordLeaf t expand node path s m = .ok m' := by
  obtain ⟨r, hr⟩ := hr
  unfold recordLeaf
  rw [hr]
  cases r with
  | none => exact ⟨m, rfl⟩
  | some range =>
      cases path with
      | none => exact ⟨m, rfl⟩
      | some steps =>
          cases node with
          | «alias» span anchor source =>
              cases htarget : m.targetAt steps with
              | some target => exact ⟨_, by simp only [bind, Except.bind, htarget]; rfl⟩
              | none =>
                  obtain ⟨target, ht⟩ := he s source hs
                  exact ⟨_, by simp only [bind, Except.bind, htarget, ht]; rfl⟩
          | _ => exact ⟨_, rfl⟩

/-- Items succeed if each of them does in every scope that is reached. -/
theorem exists_visitItems_eq_ok (hP : KeptBy all P) (hr : ∀ n ∈ all, ∃ r, t.nodeRange n = .ok r)
    {items : List Node} (ih : ∀ item ∈ items, (∀ n ∈ item.nodes, n ∈ all) →
      ∀ path m s, P s → ∃ p, visit t expand item path m s = .ok p)
    (hall : ∀ n ∈ Node.nodesOfItems items, n ∈ all) (path : Option (List PathStep)) :
    ∀ n m s, P s → ∃ p, visitItems t expand n items path m s = .ok p := by
  induction items with
  | nil => exact fun _ m s _ => ⟨_, rfl⟩
  | cons item rest ih' =>
      intro n m s hs
      simp only [Node.nodesOfItems, List.mem_append] at hall
      have hitem : ∀ n ∈ item.nodes, n ∈ all := fun n h => hall n (.inl h)
      obtain ⟨r, hr'⟩ := hr item (hitem _ (Node.mem_nodes_self _))
      obtain ⟨⟨m₁, s₁⟩, h₁⟩ := ih item (by simp) hitem (extend path (itemStep n r)) m s hs
      obtain ⟨rfl, -⟩ := visit_eq_ok h₁
      obtain ⟨p, h₂⟩ := ih' (fun i hi => ih i (by simp [hi])) (fun n h => hall n (.inr h))
        (n + 1) m₁ _ (hP.registers hitem hs)
      exact ⟨p, Except.bind_eq_ok.mpr ⟨r, hr', Except.bind_eq_ok.mpr ⟨_, h₁, h₂⟩⟩⟩

/-- So do pairs. -/
theorem exists_visitPairs_eq_ok (hP : KeptBy all P) (hr : ∀ n ∈ all, ∃ r, t.nodeRange n = .ok r)
    {pairs : List (Node × Node)} (ih : ∀ pair ∈ pairs, (∀ n ∈ pair.2.nodes, n ∈ all) →
      ∀ path m s, P s → ∃ p, visit t expand pair.2 path m s = .ok p)
    (hall : ∀ n ∈ Node.nodesOfPairs pairs, n ∈ all) (path : Option (List PathStep)) :
    ∀ m s, P s → ∃ p, visitPairs t expand pairs path m s = .ok p := by
  induction pairs with
  | nil => exact fun m s _ => ⟨_, rfl⟩
  | cons pair rest ih' =>
      obtain ⟨key, value⟩ := pair
      intro m s hs
      simp only [Node.nodesOfPairs, List.mem_append] at hall
      have hkeys : ∀ n ∈ key.nodes, n ∈ all := fun n h => hall n (.inl h)
      have hvalues : ∀ n ∈ value.nodes, n ∈ all := fun n h => hall n (.inr (.inl h))
      have ihr := ih' (fun p hp => ih p (by simp [hp])) fun n h => hall n (.inr (.inr h))
      by_cases hkey : ∃ span anchor name, key = .scalar span anchor name
      · obtain ⟨span, anchor, name, rfl⟩ := hkey
        have hk := hkeys _ (Node.mem_nodes_self _)
        obtain ⟨kr, hkr⟩ := hr _ hk
        obtain ⟨vr, hvr⟩ := hr value (hvalues _ (Node.mem_nodes_self _))
        have hs' := hP _ hk s hs
        obtain ⟨⟨m₁, s₁⟩, h₁⟩ := ih _ List.mem_cons_self hvalues
          (extend path (keyStep name kr vr)) m _ hs'
        obtain ⟨rfl, -⟩ := visit_eq_ok h₁
        obtain ⟨p, h₂⟩ := ihr m₁ _ (hP.registers hvalues hs')
        exact ⟨p, Except.bind_eq_ok.mpr ⟨kr, hkr, Except.bind_eq_ok.mpr ⟨vr, hvr,
          Except.bind_eq_ok.mpr ⟨_, h₁, h₂⟩⟩⟩⟩
      · have hne : ∀ span anchor name, key = .scalar span anchor name → False :=
          fun _ _ _ h => hkey ⟨_, _, _, h⟩
        rw [visitPairs.eq_3 _ _ _ _ _ _ _ _ hne, AnchorScope.registerAll_eq,
          AnchorScope.registerAll_eq]
        exact ihr m _ (hP.registers hvalues (hP.registers hkeys hs))

/-- A walk succeeds when the nodes of the tree have ranges and aliases can be expanded. -/
theorem exists_visit_eq_ok (hP : KeptBy all P) (hr : ∀ n ∈ all, ∃ r, t.nodeRange n = .ok r)
    (he : ∀ s source, P s → ∃ r, expand s source = .ok r) {node : Node}
    (hn : ∀ n ∈ node.nodes, n ∈ all) (path : Option (List PathStep)) (m : RangeMap)
    {s : AnchorScope} (hs : P s) : ∃ p, visit t expand node path m s = .ok p := by
  induction node using Node.induction generalizing path m s with
  | scalar span anchor value =>
      have hself := hn _ (Node.mem_nodes_self _)
      obtain ⟨m', h⟩ := exists_recordLeaf_eq_ok (hr _ hself) he path (hP _ hself s hs) m
      exact ⟨_, Except.bind_eq_ok.mpr ⟨m', h, rfl⟩⟩
  | «alias» span anchor source =>
      have hself := hn _ (Node.mem_nodes_self _)
      obtain ⟨m', h⟩ := exists_recordLeaf_eq_ok (hr _ hself) he path (hP _ hself s hs) m
      exact ⟨_, Except.bind_eq_ok.mpr ⟨m', h, rfl⟩⟩
  | bare span anchor => exact ⟨_, rfl⟩
  | sequence span anchor items ih =>
      have hself := hn _ (Node.mem_nodes_self _)
      have hs₁ := hP _ hself s hs
      obtain ⟨⟨m₁, s₁⟩, h₁⟩ := exists_visitItems_eq_ok hP hr
        (fun i hi hn path m s hs => ih i hi hn path m hs)
        (fun n h => hn n (by simp [Node.nodes, h])) path 0 m _ hs₁
      -- an empty sequence is a leaf, and writes one
      cases items with
      | nil =>
          obtain ⟨m', h⟩ := exists_recordLeaf_eq_ok (hr _ hself) he path hs₁ m₁
          cases h₁
          exact ⟨_, Except.bind_eq_ok.mpr ⟨_, rfl, Except.bind_eq_ok.mpr ⟨m', h, rfl⟩⟩⟩
      | cons => exact ⟨_, Except.bind_eq_ok.mpr ⟨_, h₁, rfl⟩⟩
  | mapping span anchor pairs ih =>
      have hself := hn _ (Node.mem_nodes_self _)
      have hs₁ := hP _ hself s hs
      obtain ⟨⟨m₁, s₁⟩, h₁⟩ := exists_visitPairs_eq_ok hP hr
        (fun p hp hn path m s hs => (ih p hp).2 hn path m hs)
        (fun n h => hn n (by simp [Node.nodes, h])) path m _ hs₁
      cases pairs with
      | nil =>
          obtain ⟨m', h⟩ := exists_recordLeaf_eq_ok (hr _ hself) he path hs₁ m₁
          cases h₁
          exact ⟨_, Except.bind_eq_ok.mpr ⟨_, rfl, Except.bind_eq_ok.mpr ⟨m', h, rfl⟩⟩⟩
      | cons => exact ⟨_, Except.bind_eq_ok.mpr ⟨_, h₁, rfl⟩⟩

end Walk

/-! ### Leaves below a step -/

section Under

variable {t : LineTable} {expand : Expansion}

/-- Puts a child under a step. -/
def withChild (m : RangeMap) (step : PathStep) (c : RangeMap) : RangeMap :=
  { m with children := put step.segment c m.children }

/-- The child under a step, a new one if there is none yet. -/
def childOr (m : RangeMap) (step : PathStep) : RangeMap :=
  (m.child step.segment).getD (leaf step.value step.key)

/-- Of two maps put under one segment the second counts. -/
theorem put_put (segment : Segment) (a b : RangeMap) (entries : List (Segment × RangeMap)) :
    put segment b (put segment a entries) = put segment b entries := by
  induction entries with
  | nil => simp [put]
  | cons e rest ih =>
      obtain ⟨s, old⟩ := e
      by_cases h : s = segment <;> simp [put, h, ih]

/-- A segment that is new comes last. -/
theorem put_of_lookup_none {segment : Segment} {m : RangeMap} {entries : List (Segment × RangeMap)}
    (h : lookup segment entries = none) : put segment m entries = entries ++ [(segment, m)] := by
  induction entries with
  | nil => rfl
  | cons e rest ih =>
      obtain ⟨s, old⟩ := e
      by_cases hs : s = segment
      · simp [lookup, hs] at h
      · simp only [lookup, if_neg hs] at h
        simp [put, hs, ih h]

/-- What is put at a child takes the place of what was there. -/
theorem withChild_withChild (m : RangeMap) (step : PathStep) (a b : RangeMap) :
    (m.withChild step a).withChild step b = m.withChild step b := by
  simp [withChild, put_put]

/-- What is put below a step is found below it. -/
@[simp] theorem childOr_withChild (m : RangeMap) (step : PathStep) (c : RangeMap) :
    (m.withChild step c).childOr step = c := by
  simp [withChild, childOr, child, lookup_put]

/-- A path leads below its first step. -/
theorem targetAt_cons (m : RangeMap) (step : PathStep) (rest : List PathStep) :
    m.targetAt (step :: rest) = (m.childOr step).targetAt rest := by
  rw [targetAt, childOr]
  cases m.child step.segment with
  | some c => rfl
  | none => cases rest <;> rfl

/-- A leaf below a step is written into the child below that step. -/
theorem write_under (step : PathStep) (l : Leaf) (m : RangeMap) :
    (l.under step).write expand m = (l.write expand (m.childOr step)).map (m.withChild step) := by
  obtain ⟨path, range, hop⟩ := l
  cases hop with
  | none => rfl
  | some hop =>
      obtain ⟨scope, source⟩ := hop
      simp only [Leaf.write, Leaf.under, targetAt_cons]
      cases (m.childOr step).targetAt path with
      | some target => rfl
      | none => cases expand scope source <;> rfl

/-- Leaves that share their first step are written into the child below it. -/
theorem writeAll_under (step : PathStep) {ls : List Leaf} (hls : ls ≠ []) (m : RangeMap) :
    writeAll expand (ls.map (Leaf.under step)) m =
      (writeAll expand ls (m.childOr step)).map (m.withChild step) := by
  induction ls generalizing m with
  | nil => exact absurd rfl hls
  | cons l rest ih =>
      simp only [List.map_cons, writeAll, write_under]
      cases hw : l.write expand (m.childOr step) with
      | error e => rfl
      | ok c =>
          cases rest with
          | nil => rfl
          | cons l' rest =>
              have := ih (by simp) (m.withChild step c)
              rw [childOr_withChild] at this
              simp only [Except.map, bind, Except.bind] at this ⊢
              rw [this]
              cases writeAll expand (l' :: rest) c <;> simp [withChild_withChild]

end Under

end RangeMap

namespace Node

variable {t : LineTable}

theorem extend_map (step : PathStep) (path : Option (List PathStep)) (next : Option PathStep) :
    RangeMap.extend (path.map (step :: ·)) next = (RangeMap.extend path next).map (step :: ·) := by
  cases path <;> cases next <;> rfl

/-- A node writes the same leaf further down. -/
theorem leafAt_map (node : Node) (step : PathStep) (path : Option (List PathStep))
    (s : AnchorScope) :
    node.leafAt t (path.map (step :: ·)) s = (node.leafAt t path s).map (Leaf.under step) := by
  unfold leafAt
  cases t.range? node <;> cases path <;> rfl

/-- So do the items of a sequence. -/
theorem leavesOfItems_map {step : PathStep} {items : List Node}
    (ih : ∀ item ∈ items, ∀ path s, item.leaves t (path.map (step :: ·)) s =
      (item.leaves t path s).map (Leaf.under step)) (path : Option (List PathStep)) :
    ∀ n s, leavesOfItems t n items (path.map (step :: ·)) s =
      (leavesOfItems t n items path s).map (Leaf.under step) := by
  induction items with
  | nil => exact fun _ _ => rfl
  | cons item rest ih' =>
      intro n s
      rw [leavesOfItems, leavesOfItems, List.map_append, extend_map, ih item (by simp),
        ih' fun i hi => ih i (by simp [hi])]

theorem leavesOfPairs_map {step : PathStep} {pairs : List (Node × Node)}
    (ih : ∀ pair ∈ pairs, ∀ path s, pair.2.leaves t (path.map (step :: ·)) s =
      (pair.2.leaves t path s).map (Leaf.under step)) (path : Option (List PathStep)) :
    ∀ s, leavesOfPairs t pairs (path.map (step :: ·)) s =
      (leavesOfPairs t pairs path s).map (Leaf.under step) := by
  induction pairs with
  | nil => exact fun _ => rfl
  | cons pair rest ih' =>
      obtain ⟨key, value⟩ := pair
      intro s
      have ihr := ih' fun p hp => ih p (by simp [hp])
      by_cases hkey : ∃ span anchor name, key = .scalar span anchor name
      · obtain ⟨span, anchor, name, rfl⟩ := hkey
        simp only [leavesOfPairs, List.map_append, extend_map, ihr]
        rw [ih _ List.mem_cons_self]
      · have hne : ∀ span anchor name, key = .scalar span anchor name → False :=
          fun _ _ _ h => hkey ⟨_, _, _, h⟩
        rw [leavesOfPairs.eq_3 _ _ _ _ _ _ hne, leavesOfPairs.eq_3 _ _ _ _ _ _ hne, ihr]

/-- One step further down, the same leaves are found one step further down. -/
theorem leaves_map (node : Node) (step : PathStep) (path : Option (List PathStep))
    (s : AnchorScope) :
    node.leaves t (path.map (step :: ·)) s = (node.leaves t path s).map (Leaf.under step) := by
  induction node using Node.induction generalizing path s with
  | scalar | «alias» => exact leafAt_map _ _ _ _
  | bare => rfl
  | sequence span anchor items ih =>
      simp only [leaves, List.map_append, leavesOfItems_map ih]
      cases items with
      | nil => simp [leafAt_map]
      | cons => rfl
  | mapping span anchor pairs ih =>
      simp only [leaves, List.map_append, leavesOfPairs_map fun p hp => (ih p hp).2]
      cases pairs with
      | nil => simp [leafAt_map]
      | cons => rfl

/-- Without a path nothing is written, and neither are the items. -/
theorem leavesOfItems_none {items : List Node}
    (ih : ∀ item ∈ items, ∀ s, item.leaves t none s = []) :
    ∀ n s, leavesOfItems t n items none s = [] := by
  induction items with
  | nil => exact fun _ _ => rfl
  | cons item rest ih' =>
      intro n s
      rw [leavesOfItems, ih' (fun i hi => ih i (by simp [hi])), List.append_nil]
      exact ih item (by simp) s

theorem leavesOfPairs_none {pairs : List (Node × Node)}
    (ih : ∀ pair ∈ pairs, ∀ s, pair.2.leaves t none s = []) :
    ∀ s, leavesOfPairs t pairs none s = [] := by
  induction pairs with
  | nil => exact fun _ => rfl
  | cons pair rest ih' =>
      obtain ⟨key, value⟩ := pair
      intro s
      have ihr := ih' fun p hp => ih p (by simp [hp])
      cases key with
      | scalar span anchor name =>
          simp only [leavesOfPairs, ihr, List.append_nil]
          exact ih _ List.mem_cons_self _
      | _ => exact ihr _

/-- Without a path there are no leaves. -/
theorem leaves_none (node : Node) (s : AnchorScope) : node.leaves t none s = [] := by
  have hleaf : ∀ (n : Node) (s : AnchorScope), n.leafAt t none s = [] := by
    intro n s
    unfold leafAt
    cases t.range? n <;> rfl
  induction node using Node.induction generalizing s with
  | scalar | «alias» => exact hleaf _ _
  | bare => rfl
  | sequence span anchor items ih =>
      simp only [leaves, leavesOfItems_none ih, hleaf]
      simp
  | mapping span anchor pairs ih =>
      simp only [leaves, leavesOfPairs_none fun p hp => (ih p hp).2, hleaf]
      simp

end Node

end YamlAudit
