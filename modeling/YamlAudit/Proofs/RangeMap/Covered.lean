import YamlAudit.Proofs.RangeMap.Entry
import YamlAudit.Proofs.RangeMap.Find
import YamlAudit.Proofs.RangeMap.Walk

/-!
# RangeMap — the nodes that have an entry

A node that a path of scalar keys and positions leads to (`Node.at?`) has an entry in the map if and
only if a leaf lies at it or below it, reached in the same way (`Node.HasLeaf`).  A collection with
content below keys that are no scalars only has none, and what is said about it is located at the
nearest node above that has one.

* `Node.hasLeaf_iff`: where no key is repeated, the nodes with such a leaf are the charted ones.
* `RangeMap.exists_entryAt?_iff_hasLeaf`: the entries of the map of a document, and where they locate.

A mapping with content below complex keys is neither empty nor has it a leaf, so the rule that empty
collections are leaves does not reach it.  That the entry is missing is a statement about the map,
and where a path to it is located is one about the walk; both are told by the same leaf.
-/

namespace YamlAudit

namespace Node

/-- No mapping of a tree has two scalar keys with the same text. -/
def DistinctNames (d : Node) : Prop := ∀ n ∈ d.nodes, (keyNames n.pairs).Nodup

instance (d : Node) : Decidable d.DistinctNames :=
  inferInstanceAs (Decidable (∀ n ∈ d.nodes, (keyNames n.pairs).Nodup))

/-- The node that a path of scalar keys and positions leads to. -/
def at? : Node → List Segment → Option Node
  | n, [] => some n
  | n, segment :: rest => (n.under segment).bind fun c => c.at? rest

/-- A leaf lies at a node, or below it through scalar keys and positions. -/
def HasLeaf (n : Node) : Prop := ∃ path l, n.at? path = some l ∧ l.isLeaf

/-! ### Nodes under a segment -/

theorem mem_children_of_under {n c : Node} {segment : Segment} (h : n.under segment = some c) :
    c ∈ n.children := by
  rw [← partAt_map_snd] at h
  obtain ⟨p, hp, rfl⟩ := Option.map_eq_some_iff.mp h
  rw [← parts_map_snd]
  exact List.mem_map_of_mem (partAt_mem hp)

theorem nodes_subset_of_under {n c : Node} {segment : Segment} (h : n.under segment = some c) :
    c.nodes ⊆ n.nodes :=
  nodes_subset_of_mem_children (mem_children_of_under h)

/-- Under the text of a scalar key lies its value, where no text is repeated. -/
theorem under_key (span : Option Span) (anchor : Option String) {pairs : List (Node × Node)}
    (hnodup : (keyNames pairs).Nodup) {sp : Option Span} {a : Option String} {name : String}
    {value : Node} (h : (.scalar sp a name, value) ∈ pairs) :
    (mapping span anchor pairs).under (.key name) = some value := by
  rw [under]
  induction pairs with
  | nil => cases h
  | cons pair rest ih =>
      obtain ⟨key, v⟩ := pair
      rcases List.mem_cons.mp h with h' | h'
      · cases h'
        simp [isText]
      · have hname : name ∈ keyNames rest := List.mem_filterMap.mpr ⟨_, h', rfl⟩
        cases key with
        | scalar span' anchor' text =>
            obtain ⟨hnot, hnodup⟩ := List.nodup_cons.mp hnodup
            have hne : text ≠ name := fun heq => hnot (heq ▸ hname)
            rw [List.find?_cons_of_neg (by simpa [isText] using hne)]
            exact ih hnodup h'
        | _ =>
            rw [List.find?_cons_of_neg (by simp [isText])]
            exact ih hnodup h'

theorem DistinctNames.of_under {n c : Node} (hn : n.DistinctNames) {segment : Segment}
    (h : n.under segment = some c) : c.DistinctNames :=
  fun x hx => hn x (nodes_subset_of_under h hx)

theorem DistinctNames.of_at? {n c : Node} (hn : n.DistinctNames) {path : List Segment}
    (h : n.at? path = some c) : c.DistinctNames := by
  induction path generalizing n with
  | nil => exact Option.some.inj h ▸ hn
  | cons segment rest ih =>
      obtain ⟨next, hnext, h⟩ := Option.bind_eq_some_iff.mp h
      exact ih (hn.of_under hnext) h

/-! ### Charted nodes have leaves -/

theorem chartsItems_iff {items : List Node} :
    chartsItems items = true ↔ ∃ item ∈ items, item.isCharted = true := by
  induction items with
  | nil => simp [chartsItems]
  | cons item rest ih => simp [chartsItems, ih]

theorem chartsPairs_iff {pairs : List (Node × Node)} :
    chartsPairs pairs = true ↔ ∃ pair ∈ pairs, pair.1.isScalar ∧ pair.2.isCharted = true := by
  induction pairs with
  | nil => simp [chartsPairs]
  | cons pair rest ih =>
      obtain ⟨key, value⟩ := pair
      cases key <;> simp [chartsPairs, isScalar, ih]

theorem isCharted_of_under {n c : Node} {segment : Segment} (h : n.under segment = some c)
    (hc : c.isCharted = true) : n.isCharted = true := by
  cases n with
  | sequence span anchor items =>
      cases segment with
      | key name => cases h
      | index position =>
          rw [under] at h
          split at h
          · cases h
          · have := chartsItems_iff.mpr ⟨c, List.mem_of_getElem? h, hc⟩
            simp [isCharted, this]
  | mapping span anchor pairs =>
      cases segment with
      | index position => cases h
      | key name =>
          obtain ⟨pair, hfind, rfl⟩ := Option.map_eq_some_iff.mp h
          have hkey : pair.1.isScalar := by
            have htext := List.find?_some hfind
            cases hn : pair.1 with
            | scalar => rfl
            | _ => simp [hn, isText] at htext
          have := chartsPairs_iff.mpr ⟨pair, List.mem_of_find?_eq_some hfind, hkey, hc⟩
          simp [isCharted, this]
  | _ => cases h

/-- Above a charted node everything is charted. -/
theorem isCharted_of_at? {n c : Node} {path : List Segment} (h : n.at? path = some c)
    (hc : c.isCharted = true) : n.isCharted = true := by
  induction path generalizing n with
  | nil => exact Option.some.inj h ▸ hc
  | cons segment rest ih =>
      obtain ⟨next, hnext, h⟩ := Option.bind_eq_some_iff.mp h
      exact isCharted_of_under hnext (ih h)

theorem isCharted_of_isLeaf {n : Node} (h : n.isLeaf) : n.isCharted = true := by
  cases n with
  | scalar | «alias» => rfl
  | bare => cases h
  | sequence | mapping =>
      simp only [isLeaf] at h
      simp [Node.isCharted, h]

/-- A node with a leaf is charted. -/
theorem HasLeaf.isCharted {n : Node} (h : n.HasLeaf) : n.isCharted = true := by
  obtain ⟨path, l, hl, hleaf⟩ := h
  exact isCharted_of_at? hl (isCharted_of_isLeaf hleaf)

theorem HasLeaf.of_under {n c : Node} {segment : Segment} (h : n.under segment = some c)
    (hc : c.HasLeaf) : n.HasLeaf := by
  obtain ⟨path, l, hl, hleaf⟩ := hc
  exact ⟨segment :: path, l, by rw [at?, h]; exact hl, hleaf⟩

/-- Where no key is repeated, a charted node has a leaf. -/
theorem hasLeaf_of_isCharted {n : Node} (hn : n.DistinctNames) (h : n.isCharted = true) :
    n.HasLeaf := by
  induction n using Node.induction with
  | scalar | «alias» => exact ⟨[], _, rfl, rfl⟩
  | bare => cases h
  | sequence span anchor items ih =>
      rw [Node.isCharted, Bool.or_eq_true] at h
      rcases h with h | h
      · exact ⟨[], _, rfl, h⟩
      · obtain ⟨item, hitem, hc⟩ := chartsItems_iff.mp h
        obtain ⟨i, hi⟩ := List.mem_iff_getElem?.mp hitem
        have hunder : (sequence span anchor items).under (.index i) = some item := by
          rw [under, if_neg (by omega)]
          simpa using hi
        exact .of_under hunder (ih item hitem (hn.of_under hunder) hc)
  | mapping span anchor pairs ih =>
      rw [Node.isCharted, Bool.or_eq_true] at h
      rcases h with h | h
      · exact ⟨[], _, rfl, h⟩
      · obtain ⟨⟨key, value⟩, hpair, hkey, hc⟩ := chartsPairs_iff.mp h
        cases key with
        | scalar sp a name =>
            have hunder := under_key span anchor (hn _ (mem_nodes_self _)) hpair
            exact .of_under hunder ((ih _ hpair).2 (hn.of_under hunder) hc)
        | _ => cases hkey

theorem hasLeaf_iff {n : Node} (hn : n.DistinctNames) : n.HasLeaf ↔ n.isCharted = true :=
  ⟨HasLeaf.isCharted, hasLeaf_of_isCharted hn⟩

end Node

namespace RangeMap

variable {t : LineTable} {s : AnchorScope} {d n : Node} {m : RangeMap}

theorem Shows.target_eq_none (h : Shows t s n m) (hn : n.isAlias = false) : m.target = none := by
  cases h with
  | unresolved | resolved => cases hn
  | _ => rfl

/-- A step to a node leads to a map that shows it if the node is charted, and to none otherwise. -/
theorem Shows.child_of_under (h : Shows t s d m) (hd : d.DistinctNames) {segment : Segment}
    (hn : d.under segment = some n) :
    m.target = none ∧ ((n.isCharted = true ∧
        ∃ s' m', m.child segment = some m' ∧ Shows t s' n m') ∨
      (n.isCharted = false ∧ m.child segment = none)) := by
  have halias : d.isAlias = false := by
    cases d with
    | «alias» => cases hn
    | _ => rfl
  refine ⟨h.target_eq_none halias, ?_⟩
  have hchild := h.child (hd _ (Node.mem_nodes_self _)) segment
  obtain ⟨p, hp, rfl⟩ := Option.map_eq_some_iff.mp ((d.partAt_map_snd segment).trans hn)
  rw [hp, Option.filter_some] at hchild
  generalize m.child segment = next at hchild ⊢
  cases hcharted : p.2.isCharted with
  | true =>
      rw [hcharted, if_pos rfl] at hchild
      cases hchild with
      | some hshow => exact .inl ⟨rfl, _, _, rfl, hshow⟩
  | false =>
      rw [hcharted, if_neg (by simp)] at hchild
      cases hchild
      exact .inr ⟨rfl, rfl⟩

theorem entryAt?_cons (m : RangeMap) (segment : Segment) (path : List Segment) :
    m.entryAt? (segment :: path) = (m.child segment).bind fun c => c.entryAt? path := rfl

/-- Behind a step what is said is located from there, where there is no target to follow. -/
theorem locate_cons {next : RangeMap} {segment : Segment} (htarget : m.target = none)
    (h : m.child segment = some next) (path : List Segment) (aspect : Aspect) :
    m.locate (segment :: path) aspect = next.locate path aspect := by
  simp only [locate, walk, follow_of_target_none htarget, h, List.nil_append]

/-- What is said below the last entry on the way is located there. -/
theorem locate_cons_of_child_eq_none {segment : Segment} (htarget : m.target = none)
    (h : m.child segment = none) (path : List Segment) (aspect : Aspect) :
    m.locate (segment :: path) aspect = ⟨m.aspect aspect, []⟩ := by
  simp only [locate, walk, follow_of_target_none htarget, h, List.reverse_nil]

/-- Where a map shows a node, the entry at a path shows the node that the path leads to. -/
theorem Shows.entryAt? (h : Shows t s d m) (hd : d.DistinctNames) {path : List Segment}
    (hn : d.at? path = some n) {e : RangeMap} (he : m.entryAt? path = some e) :
    t.nodeRange n = .ok (some e.value) ∧
      (n.isAlias = false → m.locate path .valueStart = ⟨e.value.start, []⟩) := by
  induction path generalizing s d m with
  | nil =>
      cases hn
      cases he
      refine ⟨h.nodeRange, fun halias => ?_⟩
      rw [locate, walk, follow_of_target_none (h.target_eq_none halias)]
      rfl
  | cons segment rest ih =>
      obtain ⟨c, hc, hn⟩ := Option.bind_eq_some_iff.mp hn
      obtain ⟨htarget, ⟨-, s', m', hm, hshow⟩ | ⟨-, hm⟩⟩ := h.child_of_under hd hc
      · rw [locate_cons htarget hm]
        rw [entryAt?_cons, hm] at he
        exact ih hshow (hd.of_under hc) hn he
      · rw [entryAt?_cons, hm] at he
        cases he

/-- The nodes that are charted have entries. -/
theorem Shows.isSome_entryAt? (h : Shows t s d m) (hd : d.DistinctNames) {path : List Segment}
    (hn : d.at? path = some n) : (m.entryAt? path).isSome ↔ path = [] ∨ n.isCharted = true := by
  induction path generalizing s d m with
  | nil => simp [RangeMap.entryAt?]
  | cons segment rest ih =>
      obtain ⟨c, hc, hn⟩ := Option.bind_eq_some_iff.mp hn
      rw [entryAt?_cons, or_iff_right (List.cons_ne_nil _ _)]
      obtain ⟨-, ⟨hcharted, s', m', hm, hshow⟩ | ⟨hcharted, hm⟩⟩ := h.child_of_under hd hc
      · rw [hm]
        refine (ih hshow (hd.of_under hc) hn).trans (or_iff_right_of_imp ?_)
        rintro rfl
        cases hn
        exact hcharted
      · -- below a node that is not charted nothing is charted
        have hnot : ¬ n.isCharted = true := fun hcn => by
          rw [Node.isCharted_of_at? hn hcn] at hcharted
          cases hcharted
        simp [hm, hnot]

/-- What is said about a node without an entry is located at the last entry on the way. -/
theorem Shows.locate_of_entryAt?_eq_none (h : Shows t s d m) (hd : d.DistinctNames)
    {path : List Segment} (hn : d.at? path = some n) (he : m.entryAt? path = none) :
    ∃ k < path.length, ∃ e, m.entryAt? (path.take k) = some e ∧
      m.entryAt? (path.take (k + 1)) = none ∧ m.locate path .valueStart = ⟨e.value.start, []⟩ := by
  induction path generalizing s d m with
  | nil => cases he
  | cons segment rest ih =>
      obtain ⟨c, hc, hn⟩ := Option.bind_eq_some_iff.mp hn
      obtain ⟨htarget, ⟨-, s', m', hm, hshow⟩ | ⟨-, hm⟩⟩ := h.child_of_under hd hc
      · have hentry (path : List Segment) : m.entryAt? (segment :: path) = m'.entryAt? path := by
          rw [entryAt?_cons, hm, Option.bind_some]
        rw [hentry] at he
        obtain ⟨k, hk, e, hbefore, hafter, hlocate⟩ := ih hshow (hd.of_under hc) hn he
        refine ⟨k + 1, Nat.succ_lt_succ hk, e, ?_, ?_, (locate_cons htarget hm ..).trans hlocate⟩
        · rwa [List.take_succ_cons, hentry]
        · rwa [List.take_succ_cons, hentry]
      · refine ⟨0, Nat.succ_pos _, m, rfl, ?_, locate_cons_of_child_eq_none htarget hm ..⟩
        rw [Nat.zero_add, List.take_succ_cons, entryAt?_cons, hm, Option.bind_none]

/-- In a document whose nodes have spans and whose mappings repeat no scalar key, a node that a path
leads to has an entry, with its own range, if and only if it is the root or has a leaf.  Then what
is said about it is located at its own start, if it is no alias; without an entry it is located at
the start of the last entry on the way. -/
theorem exists_entryAt?_iff_hasLeaf (t : LineTable) {d : Node} (hspanned : d.Spanned)
    (hd : d.DistinctNames) :
    ∃ m, index t d = .ok (some m) ∧ ∀ path n, d.at? path = some n →
      ((m.entryAt? path).isSome ↔ path = [] ∨ n.HasLeaf) ∧
      (∀ e, m.entryAt? path = some e → t.nodeRange n = .ok (some e.value) ∧
        (n.isAlias = false → m.locate path .valueStart = ⟨e.value.start, []⟩)) ∧
      (m.entryAt? path = none → ∃ k < path.length, ∃ e, m.entryAt? (path.take k) = some e ∧
        m.entryAt? (path.take (k + 1)) = none ∧
        m.locate path .valueStart = ⟨e.value.start, []⟩) := by
  obtain ⟨m, hm, hshow, -⟩ := exists_index (hspanned.positioned t)
  refine ⟨m, hm, fun path n hn => ?_⟩
  rw [Node.hasLeaf_iff (hd.of_at? hn)]
  exact ⟨hshow.isSome_entryAt? hd hn, fun e he => hshow.entryAt? hd hn he,
    hshow.locate_of_entryAt?_eq_none hd hn⟩

/-- The tree of `a: {? [x] : y}` and `b: [z]`. -/
def sequenceKey : Node :=
  .mapping (some ⟨0, 22⟩) none
    [(.scalar (some ⟨0, 1⟩) none "a",
      .mapping (some ⟨3, 14⟩) none
        [(.sequence (some ⟨6, 9⟩) none [.scalar (some ⟨7, 8⟩) none "x"],
          .scalar (some ⟨12, 13⟩) none "y")]),
      (.scalar (some ⟨15, 16⟩) none "b",
        .sequence (some ⟨18, 21⟩) none [.scalar (some ⟨19, 20⟩) none "z"])]

theorem exists_entryAt?_iff_hasLeaf_sequenceKey :
    sequenceKey.Spanned ∧ sequenceKey.DistinctNames ∧ ∃ m,
      index (.ofText "a: {? [x] : y}\nb: [z]\n") sequenceKey = .ok (some m) ∧
      ∀ path n, sequenceKey.at? path = some n →
        ((m.entryAt? path).isSome ↔ path = [] ∨ n.HasLeaf) := by
  have hspanned : sequenceKey.Spanned := by decide
  have hdistinct : sequenceKey.DistinctNames := by decide
  obtain ⟨m, hm, h⟩ := exists_entryAt?_iff_hasLeaf (.ofText "a: {? [x] : y}\nb: [z]\n") hspanned
    hdistinct
  exact ⟨hspanned, hdistinct, m, hm, fun path n hn => (h path n hn).1⟩

/-- Not every mapping has an entry: the only pair of the one under `a` has a sequence as key, and
what is said about the mapping, which begins in line 2, is located at the start of the document. -/
theorem exists_locate_ne_start :
    ∃ d n doc m, ((Loader.start {}).readTree "a:\n  ? [x]\n  : y\n".toList).1 = .ok (some d) ∧
      d.Spanned ∧ d.DistinctNames ∧ d.at? [.key "a"] = some n ∧ n.pairs.length = 1 ∧
      (LineTable.ofText "a:\n  ? [x]\n  : y\n").nodeRange n =
        .ok (some ⟨⟨2, 3⟩, ⟨4, 1⟩, by decide⟩) ∧
      ((Loader.start {}).load "a:\n  ? [x]\n  : y\n").1 = .ok doc ∧ doc.rangeMap = some m ∧
      (m.entryAt? [.key "a"]).isNone ∧ m.locate [.key "a"] .valueStart = ⟨⟨1, 1⟩, []⟩ := by
  have htree : ((Loader.start {}).readTree "a:\n  ? [x]\n  : y\n".toList).1.toOption.any (fun d =>
      d.any fun d => (d.at? [.key "a"]).any fun n =>
        decide (d.Spanned ∧ d.DistinctNames ∧ n.pairs.length = 1) &&
        ((LineTable.ofText "a:\n  ? [x]\n  : y\n").nodeRange n).toOption.any fun r =>
          decide (r = some ⟨⟨2, 3⟩, ⟨4, 1⟩, by decide⟩)) = true := by
    decide +kernel
  have hdoc : ((Loader.start {}).load "a:\n  ? [x]\n  : y\n").1.toOption.any (fun doc =>
      doc.rangeMap.any fun m => (m.entryAt? [.key "a"]).isNone &&
        decide (m.locate [.key "a"] .valueStart = ⟨⟨1, 1⟩, []⟩)) = true := by
    decide +kernel
  obtain ⟨root, hread, hroot⟩ := Except.exists_ok_of_any htree
  obtain ⟨d, rfl, hd⟩ := Option.any_eq_true _ _ |>.mp hroot
  obtain ⟨n, hn, hd⟩ := Option.any_eq_true _ _ |>.mp hd
  obtain ⟨hd, hr⟩ := Bool.and_eq_true_iff.mp hd
  obtain ⟨r, hrange, hr⟩ := Except.exists_ok_of_any hr
  obtain ⟨hspanned, hdistinct, hpairs⟩ := of_decide_eq_true hd
  obtain ⟨doc, hload, hdoc⟩ := Except.exists_ok_of_any hdoc
  obtain ⟨m, hm, hdoc⟩ := Option.any_eq_true _ _ |>.mp hdoc
  obtain ⟨hnone, hlocate⟩ := Bool.and_eq_true_iff.mp hdoc
  exact ⟨d, n, doc, m, hread, hspanned, hdistinct, hn, hpairs,
    by rw [hrange, of_decide_eq_true hr], hload, hm, hnone, of_decide_eq_true hlocate⟩

end RangeMap

end YamlAudit
