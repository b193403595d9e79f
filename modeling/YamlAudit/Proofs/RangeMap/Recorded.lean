import YamlAudit.Proofs.Document.Roles
import YamlAudit.Proofs.RangeMap.Leaves

/-!
# RangeMap — the leaves of a document that are recorded

A step from a spot leads to an item of a sequence that has a range, or to the value under a scalar
key where both have one (`Spot.Step`).  The leaves that are recorded are those that such steps lead
to (`Record.Of`); they come with the steps on the way, so that each is found again in the document.

* `InOrder.of_leaves`: the leaves that a walk through a document writes are the recorded ones, in
  document order.

Whether a node is a leaf is up to the node, and whether it is recorded is up to the steps that lead
to it: below a key that is no scalar, or below a node without a range, nothing is recorded however
deep it goes.
-/

namespace YamlAudit

theorem LineTable.range?_eq_some {t : LineTable} {node : Node} {r : Range} :
    t.range? node = some r ↔ t.nodeRange node = .ok (some r) := by
  unfold range?
  cases t.nodeRange node <;> simp

theorem AnchorScope.register_registers (s : AnchorScope) (before : List Node) (n : Node) :
    (s.registers before).register n = s.registers (before ++ [n]) := by
  rw [registers_append]
  rfl

namespace Spot

theorem le_of_mem_rowOfPairs {before : List Node} {pairs : List (Node × Node)} {p : Spot × Spot}
    (h : p ∈ rowOfPairs before pairs) : before.length ≤ p.2.before.length := by
  have hrow : p.2 ∈ row before (pairs.flatMap fun p => [p.1, p.2]) := by
    rw [row_flatMap]
    exact List.mem_flatMap.mpr ⟨p, h, by simp⟩
  exact le_of_mem_row hrow

/-- A step to what has a position below a spot. -/
inductive Step (t : LineTable) : Spot → PathStep → Spot → Prop
  | item {o c : Spot} {span anchor items r} {n : Nat} : o.node = .sequence span anchor items →
      o.children[n]? = some c → t.nodeRange c.node = .ok (some r) → Step t o ⟨.index n, r, none⟩ c
  | value {o key value : Spot} {span anchor name k v} : (key, value) ∈ o.pairs →
      key.node = .scalar span anchor name → t.nodeRange key.node = .ok (some k) →
      t.nodeRange value.node = .ok (some v) → Step t o ⟨.key name, v, some k⟩ value

/-- Steps one after another. -/
inductive Way (t : LineTable) : Spot → List PathStep → Spot → Prop
  | here {o} : Way t o [] o
  | step {o c e step rest} : Step t o step c → Way t c rest e → Way t o (step :: rest) e

variable {t : LineTable}

theorem Step.mem_children {o c : Spot} {step : PathStep} (h : Step t o step c) :
    c ∈ o.children := by
  cases h with
  | item _ hc _ => exact List.mem_of_getElem? hc
  | value hp => exact (pairs_mem_children hp).2

theorem Way.inside {o e : Spot} {steps : List PathStep} (h : Way t o steps e) : Inside o e := by
  induction h with
  | here => exact .refl _
  | step hs _ ih => exact .head hs.mem_children ih

/-- What lies inside a spot begins within its stretch. -/
theorem Inside.before_lt {o e : Spot} (h : Inside o e) :
    o.before.length ≤ e.before.length ∧ e.before.length < o.stop := by
  obtain ⟨pre, post, hb, hn⟩ := h.split
  obtain ⟨below, hbelow⟩ := e.node.nodes_eq_cons
  simp only [stop, hb, hn, hbelow, List.length_append, List.length_cons]
  omega

end Spot

/-- A leaf of a document, with the steps that lead to it and its range. -/
structure Record where
  steps : List PathStep
  spot : Spot
  range : Range

namespace Record

/-- The segments of the path to a leaf. -/
def segments (w : Record) : List Segment := w.steps.map (·.segment)

/-- The same leaf, found from one step further up. -/
def under (step : PathStep) (w : Record) : Record := { w with steps := step :: w.steps }

/-- A leaf lies below a spot, and all on the way to it has positions. -/
structure Of (t : LineTable) (a : Spot) (w : Record) : Prop where
  way : Spot.Way t a w.steps w.spot
  isLeaf : w.spot.node.isLeaf
  range_eq : t.nodeRange w.spot.node = .ok (some w.range)

/-- The anchors that are known at a leaf. -/
def scope (w : Record) : AnchorScope := AnchorScope.empty.registers (w.spot.before ++ [w.spot.node])

/-- What is written into a map for a leaf. -/
def leaf (w : Record) : Leaf := ⟨w.steps, w.range, Node.leafAt.hop w.scope w.spot.node⟩

/-- One leaf begins before another. -/
def Before (v w : Record) : Prop := v.spot.before.length < w.spot.before.length

variable {t : LineTable} {a c : Spot} {w : Record}

theorem of_step {step : PathStep} (hs : Spot.Step t a step c) {v : Record} (hv : v.Of t c) :
    (v.under step).Of t a :=
  ⟨.step hs hv.way, hv.isLeaf, hv.range_eq⟩

/-- A recorded leaf is the spot itself, or it lies behind a step. -/
theorem of_iff : w.Of t a ↔
    (w.steps = [] ∧ w.spot = a ∧ a.node.isLeaf ∧ t.nodeRange a.node = .ok (some w.range)) ∨
      ∃ step c, ∃ v : Record, Spot.Step t a step c ∧ v.Of t c ∧ w = v.under step := by
  constructor
  · intro h
    obtain ⟨steps, spot, range⟩ := w
    obtain ⟨hway, hleaf, hrange⟩ := h
    cases hway with
    | here => exact .inl ⟨rfl, rfl, hleaf, hrange⟩
    | step hs hway => exact .inr ⟨_, _, ⟨_, spot, range⟩, hs, ⟨hway, hleaf, hrange⟩, rfl⟩
  · rintro (⟨hsteps, hspot, hleaf, hrange⟩ | ⟨step, c, v, hs, hv, rfl⟩)
    · obtain ⟨steps, spot, range⟩ := w
      cases hsteps
      cases hspot
      exact ⟨.here, hleaf, hrange⟩
    · exact of_step hs hv

/-- What is recorded below a spot comes before what is recorded below one behind it. -/
theorem Of.before {v : Record} (hv : v.Of t a) (hw : w.Of t c) (h : a.stop ≤ c.before.length) :
    v.Before w :=
  Nat.lt_of_lt_of_le hv.way.inside.before_lt.2 (Nat.le_trans h hw.way.inside.before_lt.1)

end Record

/-! ### Leaves in document order -/

/-- Some leaves to be written are those with a property, in document order. -/
def InOrder (P : Record → Prop) (ls : List Leaf) : Prop :=
  ∃ ws : List Record, ls = ws.map Record.leaf ∧ (∀ w, w ∈ ws ↔ P w) ∧ ws.Pairwise Record.Before

namespace InOrder

variable {P Q : Record → Prop} {ls ls' : List Leaf}

theorem nil (h : ∀ w, ¬ P w) : InOrder P [] :=
  ⟨[], rfl, fun w => ⟨(nomatch ·), fun hw => (h w hw).elim⟩, .nil⟩

theorem congr (h : InOrder P ls) (hPQ : ∀ w, P w ↔ Q w) : InOrder Q ls := by
  obtain ⟨ws, hls, hmem, hpair⟩ := h
  exact ⟨ws, hls, fun w => (hmem w).trans (hPQ w), hpair⟩

theorem append (h : InOrder P ls) (h' : InOrder Q ls') (hlt : ∀ v w, P v → Q w → v.Before w) :
    InOrder (fun w => P w ∨ Q w) (ls ++ ls') := by
  obtain ⟨ws, rfl, hmem, hpair⟩ := h
  obtain ⟨ws', rfl, hmem', hpair'⟩ := h'
  refine ⟨ws ++ ws', by simp, fun w => by simp [hmem, hmem'], ?_⟩
  exact List.pairwise_append.mpr ⟨hpair, hpair', fun v hv w hw =>
    hlt v w ((hmem v).mp hv) ((hmem' w).mp hw)⟩

theorem under (step : PathStep) (h : InOrder P ls) :
    InOrder (fun w => ∃ v, P v ∧ w = v.under step) (ls.map (Leaf.under step)) := by
  obtain ⟨ws, rfl, hmem, hpair⟩ := h
  refine ⟨ws.map (Record.under step), by simp [Record.under, Record.leaf, Leaf.under, Record.scope],
    fun w => ?_, List.pairwise_map.mpr hpair⟩
  simp [hmem, eq_comm]

variable {t : LineTable}

/-- A single leaf. -/
theorem leafAt (a : Spot) :
    InOrder (fun w => w.steps = [] ∧ w.spot = a ∧ t.nodeRange a.node = .ok (some w.range))
      (a.node.leafAt t (some []) (AnchorScope.empty.registers (a.before ++ [a.node]))) := by
  unfold Node.leafAt
  cases hr : t.range? a.node with
  | none =>
      refine .nil fun w ⟨_, _, h⟩ => ?_
      rw [LineTable.range?_eq_some.mpr h] at hr
      cases hr
  | some r =>
      refine ⟨[⟨[], a, r⟩], rfl, fun w => ?_, List.pairwise_singleton _ _⟩
      rw [List.mem_singleton]
      constructor
      · rintro rfl
        exact ⟨rfl, rfl, LineTable.range?_eq_some.mp hr⟩
      · rintro ⟨hsteps, hspot, hrange⟩
        rw [LineTable.range?_eq_some.mpr hrange] at hr
        obtain ⟨steps, spot, range⟩ := w
        cases hsteps
        cases hspot
        cases hr
        rfl

/-- The leaves behind a step, if there is one. -/
theorem leaves_step {c : Spot} (step : Option PathStep)
    (h : InOrder (Record.Of t c)
      (c.node.leaves t (some []) (AnchorScope.empty.registers c.before))) :
    InOrder (fun w => ∃ s ∈ step, ∃ v, v.Of t c ∧ w = Record.under s v)
      (c.node.leaves t (RangeMap.extend (some []) step)
        (AnchorScope.empty.registers c.before)) := by
  cases step with
  | none =>
      rw [show RangeMap.extend (some []) none = none from rfl, Node.leaves_none]
      exact .nil fun w ⟨_, hs, _⟩ => by cases hs
  | some step =>
      rw [show RangeMap.extend (some []) (some step) = (some []).map (step :: ·) from rfl,
        Node.leaves_map]
      exact (h.under step).congr fun w => by simp

/-- The leaves below the items of a sequence, from position `n` on. -/
theorem leavesOfItems {items : List Node} (ih : ∀ item ∈ items, ∀ before,
      InOrder (Record.Of t ⟨before, item⟩)
        (item.leaves t (some []) (AnchorScope.empty.registers before))) :
    ∀ n before, InOrder (fun w => ∃ i c r v, (Spot.row before items)[i]? = some c ∧
        t.nodeRange c.node = .ok (some r) ∧ v.Of t c ∧
        w = Record.under ⟨.index (n + i : Nat), r, none⟩ v)
      (Node.leavesOfItems t n items (some []) (AnchorScope.empty.registers before)) := by
  induction items with
  | nil => exact fun n before => .nil fun w ⟨_, _, _, _, h, _⟩ => by simp [Spot.row] at h
  | cons item rest ih' =>
      intro n before
      rw [Node.leavesOfItems, ← AnchorScope.registers_append]
      have hfirst := leaves_step (RangeMap.itemStep n (t.range? item))
        (ih item (by simp) before)
      have hrest := ih' (fun i hi => ih i (by simp [hi])) (n + 1) (before ++ item.nodes)
      refine (hfirst.append hrest ?_).congr fun w => ?_
      · rintro _ _ ⟨_, _, v, hv, rfl⟩ ⟨i, c, _, v', hc, -, hv', rfl⟩
        have hc := Spot.le_of_mem_row (List.mem_of_getElem? hc)
        have hlt : v.Before v' := hv.before hv' (by simpa [Spot.stop] using hc)
        exact hlt
      · constructor
        · rintro (⟨s, hs, v, hv, rfl⟩ | ⟨i, c, r, v, hc, hr, hv, rfl⟩)
          · obtain ⟨r, hr, rfl⟩ := Option.map_eq_some_iff.mp hs
            exact ⟨0, _, r, v, rfl, LineTable.range?_eq_some.mp hr, hv, rfl⟩
          · exact ⟨i + 1, c, r, v, hc, hr, hv, by rw [show n + (i + 1) = n + 1 + i by omega]⟩
        · rintro ⟨_ | i, c, r, v, hc, hr, hv, rfl⟩
          · cases hc
            exact .inl ⟨_, by rw [LineTable.range?_eq_some.mpr hr]; rfl, v, hv, rfl⟩
          · exact .inr ⟨i, c, r, v, hc, hr, hv, by rw [show n + (i + 1) = n + 1 + i by omega]⟩

/-- The leaves below the values of a mapping. -/
theorem leavesOfPairs {pairs : List (Node × Node)} (ih : ∀ pair ∈ pairs, ∀ before,
      InOrder (Record.Of t ⟨before, pair.2⟩)
        (pair.2.leaves t (some []) (AnchorScope.empty.registers before))) :
    ∀ before, InOrder (fun w => ∃ key value span anchor name k r v,
        (key, value) ∈ Spot.rowOfPairs before pairs ∧ key.node = .scalar span anchor name ∧
        t.nodeRange key.node = .ok (some k) ∧ t.nodeRange value.node = .ok (some r) ∧
        v.Of t value ∧ w = Record.under ⟨.key name, r, some k⟩ v)
      (Node.leavesOfPairs t pairs (some []) (AnchorScope.empty.registers before)) := by
  induction pairs with
  | nil => exact fun before => .nil fun w ⟨_, _, _, _, _, _, _, _, h, _⟩ => by cases h
  | cons pair rest ih' =>
      obtain ⟨key, value⟩ := pair
      intro before
      have hrest := ih' (fun p hp => ih p (by simp [hp])) (before ++ key.nodes ++ value.nodes)
      by_cases hkey : ∃ span anchor name, key = .scalar span anchor name
      · obtain ⟨span, anchor, name, rfl⟩ := hkey
        simp only [Node.leavesOfPairs]
        rw [AnchorScope.register_registers, ← AnchorScope.registers_append]
        have hfirst := leaves_step (RangeMap.keyStep name
            (t.range? (.scalar span anchor name)) (t.range? value))
          (ih _ List.mem_cons_self (before ++ [.scalar span anchor name]))
        refine (hfirst.append hrest ?_).congr fun w => ?_
        · rintro _ _ ⟨_, _, v, hv, rfl⟩ ⟨k', v', _, _, _, _, _, w, hp, -, -, -, hw, rfl⟩
          have hp := Spot.le_of_mem_rowOfPairs hp
          rw [List.length_append] at hp
          have hlt : v.Before w := hv.before hw hp
          exact hlt
        · constructor
          · rintro (⟨s, hs, v, hv, rfl⟩ | ⟨k', v', sp, a, name', k, r, w, hp, h⟩)
            · unfold RangeMap.keyStep at hs
              split at hs
              · next k r hk hr =>
                cases hs
                exact ⟨_, _, span, anchor, name, k, r, v, List.mem_cons_self, rfl,
                  LineTable.range?_eq_some.mp hk, LineTable.range?_eq_some.mp hr, hv, rfl⟩
              · cases hs
            · exact ⟨k', v', sp, a, name', k, r, w, List.mem_cons_of_mem _ hp, h⟩
          · rintro ⟨k', v', sp, a, name', k, r, w, hp, hn, hk, hr, h⟩
            rcases List.mem_cons.mp hp with heq | hp
            · cases heq
              cases hn
              exact .inl ⟨_, by rw [LineTable.range?_eq_some.mpr hk,
                LineTable.range?_eq_some.mpr hr]; rfl, w, h⟩
            · exact .inr ⟨k', v', sp, a, name', k, r, w, hp, hn, hk, hr, h⟩
      -- below a key that is no scalar no leaf is recorded
      · have hne : ∀ span anchor name, key = .scalar span anchor name → False :=
          fun _ _ _ h => hkey ⟨_, _, _, h⟩
        rw [AnchorScope.registers_append, AnchorScope.registers_append] at hrest
        rw [Node.leavesOfPairs.eq_3 _ _ _ _ _ _ hne]
        refine hrest.congr fun w => ?_
        constructor
        · rintro ⟨k', v', sp, a, name', k, r, w, hp, h⟩
          exact ⟨k', v', sp, a, name', k, r, w, List.mem_cons_of_mem _ hp, h⟩
        · rintro ⟨k', v', sp, a, name', k, r, w, hp, hn, h⟩
          rcases List.mem_cons.mp hp with heq | hp
          · cases heq
            exact (hne _ _ _ hn).elim
          · exact ⟨k', v', sp, a, name', k, r, w, hp, hn, h⟩

/-- A leaf is all that is recorded below it. -/
theorem of_isLeaf {a : Spot} (hleaf : a.node.isLeaf) (hc : a.node.children = []) :
    InOrder (Record.Of t a)
      (a.node.leafAt t (some []) (AnchorScope.empty.registers (a.before ++ [a.node]))) := by
  refine (leafAt a).congr fun w => ?_
  rw [Record.of_iff]
  constructor
  · exact fun ⟨hsteps, hspot, hrange⟩ => .inl ⟨hsteps, hspot, hleaf, hrange⟩
  · rintro (⟨hsteps, hspot, -, hrange⟩ | ⟨step, c, v, hs, -⟩)
    · exact ⟨hsteps, hspot, hrange⟩
    · have := hs.mem_children
      rw [Spot.children_eq_row, hc] at this
      cases this

/-- The leaves that a walk through a document writes are the recorded ones. -/
theorem of_leaves (node : Node) (before : List Node) :
    InOrder (Record.Of t ⟨before, node⟩)
      (node.leaves t (some []) (AnchorScope.empty.registers before)) := by
  induction node using Node.induction generalizing before with
  | scalar | «alias» =>
      rw [Node.leaves, AnchorScope.register_registers]
      exact of_isLeaf (a := ⟨before, _⟩) rfl rfl
  | bare span anchor =>
      refine .nil fun w h => ?_
      rcases Record.of_iff.mp h with ⟨-, -, hleaf, -⟩ | ⟨step, c, v, hs, -⟩
      · cases hleaf
      · have := hs.mem_children
        rw [Spot.children_eq_row] at this
        cases this
  | sequence span anchor items ih =>
      rw [Node.leaves, AnchorScope.register_registers]
      cases items with
      | nil => exact of_isLeaf (a := ⟨before, _⟩) rfl rfl
      | cons item rest =>
          rw [List.isEmpty_cons, if_neg (by simp), List.append_nil]
          refine (leavesOfItems (fun i hi b => ih i hi b) 0 _).congr fun w => ?_
          rw [Record.of_iff]
          -- a recorded leaf is one step from an item, and the other way around
          constructor
          · rintro ⟨i, c, r, v, hc, hr, hv, rfl⟩
            refine .inr ⟨_, c, v, ?_, hv, rfl⟩
            rw [Nat.zero_add]
            exact .item rfl (by rw [Spot.children_eq_row]; exact hc) hr
          · rintro (⟨-, -, hleaf, -⟩ | ⟨step, c, v, hs, hv, rfl⟩)
            · cases hleaf
            · cases hs with
              | item _ hc hr =>
                  rw [Spot.children_eq_row] at hc
                  exact ⟨_, c, _, v, hc, hr, hv, by rw [Nat.zero_add]⟩
              | value hp => cases hp
  | mapping span anchor pairs ih =>
      rw [Node.leaves, AnchorScope.register_registers]
      cases pairs with
      | nil => exact of_isLeaf (a := ⟨before, _⟩) rfl rfl
      | cons pair rest =>
          rw [List.isEmpty_cons, if_neg (by simp), List.append_nil]
          refine (leavesOfPairs (fun p hp b => (ih p hp).2 b) _).congr fun w => ?_
          rw [Record.of_iff]
          constructor
          · rintro ⟨key, value, sp, a, name, k, r, v, hp, hn, hk, hr, hv, rfl⟩
            exact .inr ⟨_, value, v, .value hp hn hk hr, hv, rfl⟩
          · rintro (⟨-, -, hleaf, -⟩ | ⟨step, c, v, hs, hv, rfl⟩)
            · cases hleaf
            · cases hs with
              | item h => cases h
              | value hp hn hk hr => exact ⟨_, _, _, _, _, _, _, v, hp, hn, hk, hr, hv, rfl⟩

end InOrder

end YamlAudit
