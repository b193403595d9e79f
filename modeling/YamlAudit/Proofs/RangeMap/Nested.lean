import YamlAudit.Proofs.Document.Enclosing
import YamlAudit.Proofs.RangeMap.Chain
import YamlAudit.Proofs.RangeMap.Content
import YamlAudit.Proofs.RangeMap.Covered

/-!
# RangeMap — ranges inside each other

Where every node of a document encloses its children and no mapping repeats a scalar key, the ranges
of the map lie like the spans do, in the order of lines and columns: children and their keys inside
their parent, a key before its value, and a child before the next (`RangeMap.Encloses`).

* `Shows.encloses`: so it is in a map that shows a node of such a document.
* `encloses_of_index`: so it is in the map of such a document and behind all of its aliases.
* `nested_of_compose`: such are the documents whose events stand in order.

What lies behind an alias lies wherever the node of its name does, so nothing is said of how a
target lies to the entry it hangs from.  From there on the same holds again, as it is a node of the
document too.
-/

namespace YamlAudit

open Node (EndsBefore)

namespace LineTable

variable {t : LineTable} {a b : Node} {r r' : Range}

/-- The ranges of two nodes are in the order of their spans. -/
theorem stop_le_start (ha : t.nodeRange a = .ok (some r)) (hb : t.nodeRange b = .ok (some r'))
    (h : a.EndsBefore b) : r.stop ≤ r'.start := by
  obtain ⟨s, hs, -, hstop⟩ := nodeRange_eq_some ha
  obtain ⟨s', hs', hstart, -⟩ := nodeRange_eq_some hb
  rw [hstop, hstart]
  exact t.location_mono (h s hs s' hs')

/-- The range of a child lies inside that of a node that encloses it. -/
theorem range_inside (ha : t.nodeRange a = .ok (some r)) (hb : t.nodeRange b = .ok (some r'))
    (h : a.Encloses) (hmem : b ∈ a.children) : r.start ≤ r'.start ∧ r'.stop ≤ r.stop := by
  obtain ⟨s, hs, hstart, hstop⟩ := nodeRange_eq_some ha
  obtain ⟨s', hs', hstart', hstop'⟩ := nodeRange_eq_some hb
  obtain ⟨h₁, h₂⟩ := h.inside b hmem s hs s' hs'
  rw [hstart, hstop, hstart', hstop']
  exact ⟨t.location_mono h₁, t.location_mono h₂⟩

end LineTable

namespace RangeMap

/-- How the ranges of a position and its children lie: the values and the keys of the children
inside, a key before its value, and each child before the next begins with its key or its value. -/
structure Encloses (m : RangeMap) : Prop where
  value : ∀ e ∈ m.children, m.value.start ≤ e.2.value.start ∧ e.2.value.stop ≤ m.value.stop
  key : ∀ e ∈ m.children, ∀ k ∈ e.2.key, m.value.start ≤ k.start ∧ k.stop ≤ m.value.stop
  keyFirst : ∀ e ∈ m.children, ∀ k ∈ e.2.key, k.stop ≤ e.2.value.start
  ordered : m.children.Pairwise fun a b => a.2.value.stop ≤ b.2.aspect .key

variable {t : LineTable} {s : AnchorScope} {node : Node} {m : RangeMap}

/-- Entries show items of a sequence, and stand in their order. -/
theorem ShowsItems.ordered {k : Nat} {items : List Node} {children : List (Segment × RangeMap)}
    (h : ShowsItems t s k items children) (hord : items.Pairwise EndsBefore) :
    (∀ e ∈ children, e.2.key = none ∧ ∃ item ∈ items, t.nodeRange item = .ok (some e.2.value)) ∧
      children.Pairwise fun a b => a.2.value.stop ≤ b.2.aspect .key := by
  induction items generalizing s k children with
  | nil => cases h; exact ⟨fun _ he => (nomatch he), .nil⟩
  | cons item rest ih =>
      obtain ⟨hitem, hrest⟩ := List.pairwise_cons.mp hord
      cases h with
      | skip _ h =>
          obtain ⟨hmem, hpair⟩ := ih h hrest
          exact ⟨fun e he => (hmem e he).imp_right fun ⟨i, hi, hr⟩ =>
            ⟨i, List.mem_cons_of_mem _ hi, hr⟩, hpair⟩
      | @cons _ _ _ _ m children _ hshow hkey h =>
          obtain ⟨hmem, hpair⟩ := ih h hrest
          refine ⟨List.forall_mem_cons.mpr ⟨⟨hkey, item, List.mem_cons_self, hshow.nodeRange⟩,
            fun e he => (hmem e he).imp_right fun ⟨i, hi, hr⟩ =>
              ⟨i, List.mem_cons_of_mem _ hi, hr⟩⟩, List.pairwise_cons.mpr ⟨fun e he => ?_, hpair⟩⟩
          obtain ⟨hnone, i, hi, hr⟩ := hmem e he
          simp only [aspect, hnone]
          exact LineTable.stop_le_start hshow.nodeRange hr (hitem i hi)

/-- Entries show values of a mapping with the keys before them, and stand in their order. -/
theorem ShowsPairs.ordered {pairs : List (Node × Node)} {children : List (Segment × RangeMap)}
    (h : ShowsPairs t s pairs children)
    (hord : (pairs.flatMap fun pair => [pair.1, pair.2]).Pairwise EndsBefore) :
    (∀ e ∈ children, ∃ pair ∈ pairs, t.nodeRange pair.2 = .ok (some e.2.value) ∧
        ∃ k, e.2.key = some k ∧ t.nodeRange pair.1 = .ok (some k)) ∧
      children.Pairwise fun a b => a.2.value.stop ≤ b.2.aspect .key := by
  induction pairs generalizing s children with
  | nil => cases h; exact ⟨fun _ he => (nomatch he), .nil⟩
  | cons pair rest ih =>
      obtain ⟨-, hord⟩ := List.pairwise_cons.mp hord
      obtain ⟨hvalue, hrest⟩ := List.pairwise_cons.mp hord
      cases h with
      | skip _ h =>
          obtain ⟨hmem, hpair⟩ := ih h hrest
          exact ⟨fun e he => (hmem e he).imp fun p hp => hp.imp_left (List.mem_cons_of_mem _), hpair⟩
      | @cons _ span anchor name value _ m r children _ hr hshow hkey h =>
          obtain ⟨hmem, hpair⟩ := ih h hrest
          refine ⟨List.forall_mem_cons.mpr ⟨⟨_, List.mem_cons_self, hshow.nodeRange, r, hkey, hr⟩,
            fun e he => (hmem e he).imp fun p hp => hp.imp_left (List.mem_cons_of_mem _)⟩,
            List.pairwise_cons.mpr ⟨fun e he => ?_, hpair⟩⟩
          obtain ⟨p, hp, -, k, hk, hkr⟩ := hmem e he
          simp only [aspect, hk]
          exact LineTable.stop_le_start hshow.nodeRange hkr
            (hvalue p.1 (List.mem_flatMap.mpr ⟨p, hp, by simp⟩))

/-- A map that shows a node that encloses its children encloses its own. -/
theorem Shows.encloses (h : Shows t s node m) (hn : (Node.keyNames node.pairs).Nodup)
    (hnode : node.Encloses) : m.Encloses := by
  have hroot := h.nodeRange
  cases h with
  | sequence _ hitems =>
      obtain ⟨hmem, hpair⟩ := hitems.ordered hnode.ordered
      refine ⟨fun e he => ?_, fun e he k hk => ?_, fun e he k hk => ?_, hpair⟩
      · obtain ⟨-, item, hitem, hr⟩ := hmem e he
        exact LineTable.range_inside hroot hr hnode hitem
      · rw [(hmem e he).1] at hk; cases hk
      · rw [(hmem e he).1] at hk; cases hk
  | @mapping _ span anchor pairs _ _ _ _ hpairs =>
      have hord := hnode.ordered
      obtain ⟨hmem, hpair⟩ := (hpairs hn).ordered hord
      -- a key and its value are neighbours among the children
      have hkeys : ∀ pair ∈ pairs, pair.1 ∈ (Node.mapping span anchor pairs).children ∧
          pair.2 ∈ (Node.mapping span anchor pairs).children ∧ pair.1.EndsBefore pair.2 :=
        fun pair hp => ⟨List.mem_flatMap.mpr ⟨pair, hp, by simp⟩,
          List.mem_flatMap.mpr ⟨pair, hp, by simp⟩,
          List.pairwise_pair.mp ((List.pairwise_flatMap.mp hord).1 pair hp)⟩
      refine ⟨fun e he => ?_, fun e he k hk => ?_, fun e he k hk => ?_, hpair⟩
      · obtain ⟨pair, hp, hr, -⟩ := hmem e he
        exact LineTable.range_inside hroot hr hnode (hkeys pair hp).2.1
      · obtain ⟨pair, hp, -, _, hkey, hr⟩ := hmem e he
        cases hkey.symm.trans hk
        exact LineTable.range_inside hroot hr hnode (hkeys pair hp).1
      · obtain ⟨pair, hp, hr, _, hkey, hr'⟩ := hmem e he
        cases hkey.symm.trans hk
        exact LineTable.stop_le_start hr' hr (hkeys pair hp).2.2
  | _ => exact ⟨fun _ he => (nomatch he), fun _ he => (nomatch he), fun _ he => (nomatch he), .nil⟩

/-! ### Wherever a chain leads -/

/-- A map shows a node of a document, walked with a scope that knows nodes of the document only. -/
def ShowsWithin (t : LineTable) (d : Node) (m : RangeMap) : Prop :=
  ∃ s node, Shows t s node m ∧ node ∈ d.nodes ∧ BindsIn d s

namespace ShowsWithin

variable {d : Node} {c : RangeMap}

theorem child (hd : d.DistinctNames) (h : ShowsWithin t d m) {segment : Segment}
    (hc : m.child segment = some c) : ShowsWithin t d c := by
  obtain ⟨s, node, hshow, hnode, hs⟩ := h
  have hrel := hshow.child (hd node hnode) segment
  rw [hc] at hrel
  generalize hp : (node.partAt segment).filter _ = part at hrel
  cases hrel with
  | @some p _ hshow =>
      have hpart := Node.partAt_mem (Option.filter_eq_some_iff.mp hp).1
      obtain ⟨-, later, hnodes⟩ := Node.parts_prefix hpart
      -- the child and all nodes before it are nodes of the document
      have hsub : ∀ n ∈ p.1 ++ p.2.nodes, n ∈ d.nodes := fun n hn =>
        Node.nodes_subset hnode (by rw [hnodes]; exact List.mem_append_left _ hn)
      exact ⟨_, p.2, hshow, hsub _ (List.mem_append_right _ (Node.mem_nodes_self _)),
        (bindsIn_kept d).registers (fun n hn => hsub n (List.mem_append_left _ hn)) hs⟩

theorem target (h : ShowsWithin t d m) (hc : m.target = some c) : ShowsWithin t d c := by
  obtain ⟨s, node, hshow, hnode, hs⟩ := h
  have hrel := hshow.target
  rw [hc] at hrel
  generalize hp : s.hop node = hop at hrel
  cases hrel with
  | @some p _ hshow =>
      obtain ⟨name, -, hname⟩ := Option.bind_eq_some_iff.mp hp
      obtain ⟨n, href, rfl⟩ := Option.map_eq_some_iff.mp hname
      have hs' := bindsIn_kept d node hnode s hs
      exact ⟨_, n, hshow, hs' name n (Within.referent href).2,
        by rwa [BindsIn, entering_anchors]⟩

theorem encloses (hd : d.DistinctNames) (henc : ∀ n ∈ d.nodes, n.Encloses)
    (h : ShowsWithin t d m) : m.Encloses := by
  obtain ⟨s, node, hshow, hnode, -⟩ := h
  exact hshow.encloses (hd node hnode) (henc node hnode)

end ShowsWithin

/-- A document whose nodes enclose their children has a map, and where no mapping repeats a scalar
key every position in it encloses its own. -/
theorem encloses_of_index {d : Node} (henc : ∀ n ∈ d.nodes, n.Encloses) (t : LineTable) :
    ∃ m, index t d = .ok (some m) ∧
      (d.DistinctNames → ∀ chain x, m.descend chain = some x → x.Encloses) := by
  have hspanned : d.Spanned := fun n hn => (henc n hn).spanned
  obtain ⟨m, hm, hshow, -⟩ := exists_index (hspanned.positioned t)
  refine ⟨m, hm, fun hd chain x hx => ?_⟩
  have hroot : ShowsWithin t d m := ⟨_, d, hshow, Node.mem_nodes_self d, fun _ _ h => by cases h⟩
  have hshown : ShowsWithin t d x := descend_induction (fun h => h.child hd) .target hroot hx
  exact hshown.encloses hd henc

/-- Where events know their places and none begins before the one before it has ended, every node of
the tree they compose to encloses its children, the tree has a map, and if no mapping repeats a
scalar key every position of the map, behind aliases too, encloses its own. -/
theorem nested_of_compose {limit : Int} {events : List Event} {d : Node}
    (h : compose limit events = .ok (some d)) (horder : Event.InOrder events) :
    (∀ n ∈ d.nodes, n.Encloses) ∧
    ∀ content : String, ∃ m, index (.ofText content) d = .ok (some m) ∧
      (d.DistinctNames → ∀ chain x, m.descend chain = some x → x.Encloses) :=
  ⟨encloses_of_compose h horder, fun content =>
    encloses_of_index (encloses_of_compose h horder) (.ofText content)⟩

theorem nested_of_compose_sharedSequence :
    ∃ events d m, compose 2 events = .ok (some d) ∧ Event.InOrder events ∧
      (∀ n ∈ d.nodes, n.Encloses) ∧ index (.ofText "a: &x [1]\nb: *x\n") d = .ok (some m) ∧
      ∀ chain x, m.descend chain = some x → x.Encloses := by
  let events : List Event := [⟨.streamStart, some 0, some 0⟩, ⟨.documentStart, some 0, some 0⟩,
    ⟨.mappingStart none, some 0, some 0⟩, ⟨.scalar none "a", some 0, some 1⟩,
    ⟨.sequenceStart (some "x"), some 3, some 7⟩, ⟨.scalar none "1", some 7, some 8⟩,
    ⟨.sequenceEnd, some 8, some 9⟩, ⟨.scalar none "b", some 10, some 11⟩,
    ⟨.alias (some "x"), some 13, some 15⟩, ⟨.mappingEnd, some 16, some 16⟩,
    ⟨.documentEnd, some 16, some 16⟩, ⟨.streamEnd, some 16, some 16⟩]
  let d : Node := .mapping (some ⟨0, 16⟩) none
    [(.scalar (some ⟨0, 1⟩) none "a",
        .sequence (some ⟨3, 9⟩) (some "x") [.scalar (some ⟨7, 8⟩) none "1"]),
      (.scalar (some ⟨10, 11⟩) none "b", .alias (some ⟨13, 15⟩) none (some "x"))]
  have hcompose : compose 2 events = .ok (some d) := rfl
  have horder : Event.InOrder events := ⟨by decide, by decide⟩
  obtain ⟨hspans, hmaps⟩ := nested_of_compose hcompose horder
  obtain ⟨m, hm, hranges⟩ := hmaps "a: &x [1]\nb: *x\n"
  exact ⟨events, d, m, hcompose, horder, hspans, hm, hranges (by decide)⟩

end RangeMap

end YamlAudit
