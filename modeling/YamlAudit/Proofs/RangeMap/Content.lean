import YamlAudit.Proofs.RangeMap.Built
import YamlAudit.Proofs.RangeMap.Entry
import YamlAudit.Proofs.RangeMap.Recorded
import YamlAudit.Proofs.RangeMap.Step

/-!
# RangeMap — the content of a map

What the map of a document holds at a path is told by the recorded leaves at and below the path,
repeated keys and missing spans included (`RangeMap.Holds`): the first of them makes the entry, the
last one that ends at the path gives it its range, and one that ends there and can be resolved gives
it a target.

* `RangeMap.exists_index_holds`: a document has a map if its root has a span and no span runs
  backwards; it has the entries that the recorded leaves call for, and they hold what these say.
-/

namespace YamlAudit

namespace Node

/-- No span in a tree runs backwards; some nodes may have none. -/
def Forward (d : Node) : Prop := ∀ n ∈ d.nodes, ∀ span ∈ n.span, span.start ≤ span.stop

instance (d : Node) : Decidable d.Forward :=
  inferInstanceAs (Decidable (∀ n ∈ d.nodes, ∀ span ∈ n.span, span.start ≤ span.stop))

/-- A node has a range if it has a span. -/
theorem Forward.exists_nodeRange {d : Node} (hd : d.Forward) (t : LineTable) {n : Node}
    (hn : n ∈ d.nodes) : ∃ r, t.nodeRange n = .ok r ∧ (r.isSome ↔ n.span.isSome) := by
  cases hs : n.span with
  | none => exact ⟨none, by rw [LineTable.nodeRange, hs], by simp⟩
  | some span =>
      obtain ⟨r, hr, -⟩ := t.nodeRange_of_span hs (hd n hn span hs)
      exact ⟨some r, hr, by simp⟩

end Node

namespace Record

/-- An alias stands for a node that has a span. -/
def Resolves (w : Record) : Prop :=
  ∃ name r, w.spot.node.aliasName? = some name ∧
    Spot.lastCarrier name (w.spot.before ++ [w.spot.node]) = some r ∧ r.node.span.isSome

/-- The first recorded leaf of a document at or below a path. -/
structure First (t : LineTable) (d : Node) (p : List Segment) (w : Record) : Prop where
  recorded : w.Of t (.root d)
  below : p <+: w.segments
  least : ∀ v : Record, v.Of t (.root d) → p <+: v.segments →
    w.spot.before.length ≤ v.spot.before.length

/-- The last recorded leaf of a document that ends at a path. -/
structure Last (t : LineTable) (d : Node) (p : List Segment) (w : Record) : Prop where
  recorded : w.Of t (.root d)
  ends : w.segments = p
  greatest : ∀ v : Record, v.Of t (.root d) → v.segments = p →
    v.spot.before.length ≤ w.spot.before.length

end Record

namespace RangeMap

/-- What an entry at a path holds. -/
structure Holds (t : LineTable) (d : Node) (p : List Segment) (e : RangeMap) : Prop where
  /-- The last step to the path, on the way to the first leaf at or below it, gives the key, and the
  range as well if no leaf ends there. -/
  made : p ≠ [] → ∃ w step, Record.First t d p w ∧ w.steps[p.length - 1]? = some step ∧
    e.key = step.key ∧
    ((∀ v : Record, v.Of t (.root d) → v.segments ≠ p) → e.value = step.value)
  /-- The last leaf that ends there gives the range. -/
  value : ∀ w, Record.Last t d p w → e.value = w.range
  /-- Children stand in the order of the first leaves at or below them. -/
  children : (e.children.map Prod.fst).Pairwise fun a b =>
    ∃ v w, Record.First t d (p ++ [a]) v ∧ Record.First t d (p ++ [b]) w ∧ v.Before w
  /-- An alias that ends there and can be resolved gives the target. -/
  target : e.target.isSome ↔ ∃ w : Record, w.Of t (.root d) ∧ w.segments = p ∧ w.Resolves

/-! ### Maps of documents with missing spans -/

section Build

variable {t : LineTable} {d : Node}

/-- A scope that binds names to nodes of a document only. -/
def BindsIn (d : Node) (s : AnchorScope) : Prop :=
  ∀ name n, AnchorScope.find? name s.anchors = some n → n ∈ d.nodes

theorem bindsIn_kept (d : Node) : KeptBy d.nodes (BindsIn d) := by
  intro n hn s hs name x hx
  rw [AnchorScope.find?_register] at hx
  split at hx
  · cases hx
    exact hn
  · exact hs name x hx

theorem entering_anchors (s : AnchorScope) (name : String) :
    (s.entering name).anchors = s.anchors := by
  unfold AnchorScope.entering
  split <;> rfl

/-- Where aliases can be expanded, a node has a map if it has a span. -/
theorem exists_build_of_ok (hd : d.Forward) {budget : Nat}
    (he : ∀ s source, BindsIn d s → ∃ r, expansion t budget s source = .ok r) {s : AnchorScope}
    {node : Node} (hs : BindsIn d s) (hn : node ∈ d.nodes) :
    ∃ m, build t budget node s = .ok m ∧ (m.isSome ↔ node.span.isSome) := by
  obtain ⟨r, hr, hspan⟩ := hd.exists_nodeRange t hn
  rw [build_eq, rootedAt, hr, ← hspan]
  cases r with
  | none => exact ⟨none, rfl, Iff.rfl⟩
  | some r =>
      obtain ⟨⟨m, s'⟩, hv⟩ := exists_visit_eq_ok (bindsIn_kept d)
        (fun n hn => (hd.exists_nodeRange t hn).imp fun _ h => h.1) he
        (fun _ => Node.nodes_subset hn) (some []) (leaf r none) hs
      exact ⟨some m, Except.bind_eq_ok.mpr ⟨_, rfl, Except.bind_eq_ok.mpr ⟨_, hv, rfl⟩⟩, by simp⟩

theorem exists_build_of_forward (hd : d.Forward) (budget : Nat) {s : AnchorScope} {node : Node}
    (hs : BindsIn d s) (hn : node ∈ d.nodes) :
    ∃ m, build t budget node s = .ok m ∧ (m.isSome ↔ node.span.isSome) := by
  induction budget generalizing s node with
  | zero => exact exists_build_of_ok hd (fun _ _ _ => ⟨none, rfl⟩) hs hn
  | succ budget ih =>
      refine exists_build_of_ok hd (fun s source hs => ?_) hs hn
      cases source with
      | none => exact ⟨none, rfl⟩
      | some name =>
          rw [expansion]
          cases href : s.referent name with
          | none => exact ⟨none, rfl⟩
          | some n =>
              have hbound := hs name n (Within.referent href).2
              obtain ⟨m, hm, -⟩ := ih (s := s.entering name)
                (by rwa [BindsIn, entering_anchors]) hbound
              exact ⟨m, hm⟩

/-- What is known at a spot inside a document are the last carriers of names up to it. -/
theorem referent_scope (w : Record) (name : String) : w.scope.referent name =
    (Spot.lastCarrier name (w.spot.before ++ [w.spot.node])).map (·.node) := by
  rw [Record.scope, AnchorScope.referent, AnchorScope.registers_expanding,
    if_neg (by simp [AnchorScope.empty]), AnchorScope.find?_registers]
  cases Spot.lastCarrier name (w.spot.before ++ [w.spot.node]) <;> rfl

theorem bindsIn_scope {w : Record} (hw : w.Of t (.root d)) : BindsIn d w.scope := by
  obtain ⟨post, hpost⟩ := hw.way.inside.before_append
  obtain ⟨below, hbelow⟩ := w.spot.node.nodes_eq_cons
  refine (bindsIn_kept d).registers (fun n hn => ?_) fun _ _ h => by cases h
  rw [hpost, hbelow]
  rcases List.mem_append.mp hn with hn | hn
  · simp [hn]
  · simp [List.mem_singleton.mp hn]

/-- At a recorded leaf a name is expanded if its last carrier has a span. -/
theorem expansion_scope (hd : d.Forward) {w : Record} (hw : w.Of t (.root d)) (name : String) :
    (∃ target, expansion t d.anchorNames.length w.scope (some name) = .ok (some target)) ↔
      ∃ r, Spot.lastCarrier name (w.spot.before ++ [w.spot.node]) = some r ∧
        r.node.span.isSome := by
  have href := referent_scope w name
  cases hlast : Spot.lastCarrier name (w.spot.before ++ [w.spot.node]) with
  | none =>
      rw [hlast] at href
      have hnone : ∀ budget, expansion t budget w.scope (some name) = .ok none := by
        intro budget
        cases budget with
        | zero => rfl
        | succ budget => simp only [expansion, href, Option.map_none]
      simp [hnone]
  | some r =>
      rw [hlast] at href
      have hr := bindsIn_scope hw name r.node (Within.referent href).2
      -- the name is carried in the document, so there is room to expand it
      obtain ⟨-, -, hc, -⟩ := Spot.lastCarrier_eq_some.mp hlast
      have hpos := List.length_pos_of_mem (Node.mem_anchorNames_iff.mpr ⟨r.node, hr, hc⟩)
      obtain ⟨budget, hbudget⟩ := Nat.exists_eq_add_one_of_ne_zero (Nat.pos_iff_ne_zero.mp hpos)
      obtain ⟨m, hm, hspan⟩ := exists_build_of_forward (t := t) hd budget
        (s := w.scope.entering name) (by rw [BindsIn, entering_anchors]; exact bindsIn_scope hw) hr
      rw [hbudget, expansion, href, Option.map_some]
      simp only [hm, Except.ok.injEq, ← Option.isSome_iff_exists, hspan, Option.some.injEq,
        exists_eq_left']

/-- At a recorded leaf an expansion gives a map if and only if the leaf can be resolved. -/
theorem expands_iff (hd : d.Forward) {w : Record} (hw : w.Of t (.root d)) :
    w.leaf.Expands (expansion t d.anchorNames.length) ↔ w.Resolves := by
  have hnone : ∀ budget s, expansion t budget s none = .ok none := fun budget s => by
    cases budget <;> rfl
  constructor
  · rintro ⟨scope, source, target, hhop, hexp⟩
    cases hn : w.spot.node with
    | «alias» span anchor source' =>
        simp only [Record.leaf, hn, Node.leafAt.hop, Option.some.injEq, Prod.mk.injEq] at hhop
        obtain ⟨rfl, rfl⟩ := hhop
        cases source' with
        | none => rw [hnone] at hexp; cases hexp
        | some name =>
            obtain ⟨r, hr⟩ := (expansion_scope hd hw name).mp ⟨target, hexp⟩
            exact ⟨name, r, by rw [hn]; rfl, hr⟩
    | _ => simp [Record.leaf, hn, Node.leafAt.hop] at hhop
  · rintro ⟨name, r, hname, hr⟩
    obtain ⟨target, hexp⟩ := (expansion_scope hd hw name).mpr ⟨r, hr⟩
    refine ⟨w.scope, some name, target, ?_, hexp⟩
    cases hn : w.spot.node with
    | «alias» span anchor source =>
        rw [hn] at hname
        cases hname
        simp only [Record.leaf, hn, Node.leafAt.hop]
    | _ => rw [hn] at hname; cases hname

end Build

/-! ### Records at and below a path -/

section Remains

variable {root step : PathStep} {p : List Segment} {ws : List Record} {l : Leaf}

/-- What is left below a path of the leaves that pass it. -/
def remains (p : List Segment) (root : PathStep) (ws : List Record) : List Leaf :=
  ws.filterMap fun w => (w.leaf.pass p root).map Prod.snd

theorem remains_eq (p : List Segment) (root : PathStep) (ws : List Record) :
    ((ws.map Record.leaf).filterMap (Leaf.pass p root)).map Prod.snd = remains p root ws := by
  rw [List.map_filterMap, List.filterMap_map]
  rfl

theorem mem_remains :
    l ∈ remains p root ws ↔ ∃ w ∈ ws, ∃ step, w.leaf.pass p root = some (step, l) := by
  simp [remains]

theorem remains_cons_none {w : Record} (h : w.leaf.pass p root = none) :
    remains p root (w :: ws) = remains p root ws :=
  List.filterMap_cons_none (by rw [h]; rfl)

theorem remains_cons_some {w : Record} (h : w.leaf.pass p root = some (step, l)) :
    remains p root (w :: ws) = l :: remains p root ws :=
  List.filterMap_cons_some (by rw [h]; rfl)

/-- Of what is left below a path, the leaves that end there have the ranges of the records that do
so. -/
theorem remains_ends (p : List Segment) (root : PathStep) (ws : List Record) :
    ((remains p root ws).filter (·.path.isEmpty)).map (·.range) =
      (ws.filter fun w => w.segments = p).map (·.range) := by
  induction ws with
  | nil => rfl
  | cons w rest ih =>
      cases hw : w.leaf.pass p root with
      | none =>
          have hne : w.segments ≠ p := fun h =>
            (Leaf.pass_eq_none root).mp hw (h ▸ List.prefix_refl _)
          rw [remains_cons_none hw, ih, List.filter_cons_of_neg (by simpa using hne)]
      | some x =>
          obtain ⟨step, l⟩ := x
          obtain ⟨hsegments, hrange, -⟩ := Leaf.pass_eq_some hw
          have hends : l.path.isEmpty = decide (w.segments = p) := by
            rw [show w.segments = p ++ l.segments from hsegments, Leaf.segments]
            cases l.path <;> simp
          rw [remains_cons_some hw, List.filter_cons, List.filter_cons, hends]
          split
          · rw [List.map_cons, List.map_cons, ih]
            exact congrArg (· :: _) hrange
          · exact ih

variable {t : LineTable} {d : Node}

theorem first_of_split {ws₁ ws₂ : List Record} {w : Record}
    (hmem : ∀ w, w ∈ ws ↔ w.Of t (.root d)) (hpair : ws.Pairwise Record.Before)
    (h : ws = ws₁ ++ w :: ws₂) (hp : p <+: w.segments) (hnot : ∀ v ∈ ws₁, ¬ p <+: v.segments) :
    Record.First t d p w := by
  subst h
  refine ⟨(hmem w).mp (by simp), hp, fun v hv hpv => ?_⟩
  rcases List.mem_append.mp ((hmem v).mpr hv) with hv | hv
  · exact (hnot v hv hpv).elim
  · rcases List.mem_cons.mp hv with rfl | hv
    · exact Nat.le_refl _
    · exact Nat.le_of_lt ((List.pairwise_cons.mp (List.pairwise_append.mp hpair).2.1).1 v hv)

/-- Among records at or below a path one is first. -/
theorem exists_first (hmem : ∀ w, w ∈ ws ↔ w.Of t (.root d)) (hpair : ws.Pairwise Record.Before)
    {v : Record} (hv : v ∈ ws) (hp : p <+: v.segments) : ∃ w ∈ ws, Record.First t d p w := by
  have hsome : (ws.find? fun w => p <+: w.segments).isSome :=
    List.find?_isSome.mpr ⟨v, hv, by simpa using hp⟩
  obtain ⟨w, hw⟩ := Option.isSome_iff_exists.mp hsome
  obtain ⟨hwp, ws₁, ws₂, hsplit, hnot⟩ := List.find?_eq_some_iff_append.mp hw
  refine ⟨w, by simp [hsplit], first_of_split hmem hpair hsplit (by simpa using hwp) fun x hx => ?_⟩
  simpa using hnot x hx

/-- The last record that ends at a path is the last of those. -/
theorem getLast?_of_last (hmem : ∀ w, w ∈ ws ↔ w.Of t (.root d))
    (hpair : ws.Pairwise Record.Before) {w : Record} (hw : Record.Last t d p w) :
    (ws.filter fun w => w.segments = p).getLast? = some w := by
  have hin : w ∈ ws.filter fun w => w.segments = p := by
    simp [(hmem w).mpr hw.recorded, hw.ends]
  cases hlast : (ws.filter fun w => w.segments = p).getLast? with
  | none => rw [List.getLast?_eq_none_iff.mp hlast] at hin; cases hin
  | some u =>
      obtain ⟨init, hinit⟩ := List.getLast?_eq_some_iff.mp hlast
      have hu : u ∈ ws.filter fun w => w.segments = p := by simp [hinit]
      rw [List.mem_filter, decide_eq_true_eq] at hu
      have hpair' := hpair.filter fun w => w.segments = p
      rw [hinit] at hin hpair'
      rcases List.mem_append.mp hin with hin | hin
      · have hlt := (List.pairwise_append.mp hpair').2.2 w hin u (by simp)
        have hle := hw.greatest u ((hmem u).mp hu.1) hu.2
        exact absurd hlt (Nat.not_lt.mpr hle)
      · rw [List.mem_singleton.mp hin]

/-- Where leaves left below a path lead into one child before another, so do the first records. -/
theorem first_before_of_earlier (hmem : ∀ w, w ∈ ws ↔ w.Of t (.root d))
    (hpair : ws.Pairwise Record.Before) {a b : Segment}
    (hab : Leaf.Earlier (remains p root ws) a b)
    (hb : ∃ l ∈ remains p root ws, [b] <+: l.segments) :
    ∃ v w, Record.First t d (p ++ [a]) v ∧ Record.First t d (p ++ [b]) w ∧ v.Before w := by
  obtain ⟨pre, post, hsplit, ⟨x, hx, hxa⟩, hnot⟩ := hab
  obtain ⟨ws₁, ws₂, rfl, rfl, -⟩ := List.filterMap_eq_append_iff.mp hsplit
  -- a leaf left below the path leads into a child where its record does
  have hpass : ∀ {w : Record} {step l} (c : Segment), w.leaf.pass p root = some (step, l) →
      ([c] <+: l.segments ↔ p ++ [c] <+: w.segments) := by
    intro w step l c h
    rw [show w.segments = p ++ l.segments from (Leaf.pass_eq_some h).1,
      List.prefix_append_right_inj]
  obtain ⟨u, hu, step, hux⟩ := mem_remains.mp hx
  obtain ⟨y, hy, hyb⟩ := hb
  obtain ⟨z, hz, step', hzy⟩ := mem_remains.mp hy
  obtain ⟨v, -, hv⟩ := exists_first hmem hpair (List.mem_append_left _ hu) ((hpass a hux).mp hxa)
  obtain ⟨w, hw, hwb⟩ := exists_first hmem hpair hz ((hpass b hzy).mp hyb)
  refine ⟨v, w, hv, hwb, ?_⟩
  have hw₂ : w ∈ ws₂ := by
    rcases List.mem_append.mp hw with hw | hw
    · have hprefix : p <+: w.segments := (List.prefix_append p [b]).trans hwb.below
      obtain ⟨⟨s, l⟩, hl⟩ :=
        Option.isSome_iff_exists.mp ((Leaf.pass_isSome root (l := w.leaf)).mpr hprefix)
      exact absurd ((hpass b hl).mpr hwb.below) (hnot l (mem_remains.mpr ⟨w, hw, s, hl⟩))
    · exact hw
  have hlt : u.Before w := (List.pairwise_append.mp hpair).2.2 u hu w hw₂
  have hle := hv.least u ((hmem u).mp (List.mem_append_left _ hu)) ((hpass a hux).mp hxa)
  exact Nat.lt_of_le_of_lt hle hlt

end Remains

/-! ### The content of a map -/

section Content

variable {t : LineTable} {d : Node} {root : PathStep} {ws : List Record} {p : List Segment}
  {m e : RangeMap} {expand : Expansion}

/-- The paths with an entry are those with a record at or below them. -/
theorem isSome_entryAt?_iff (hmem : ∀ w, w ∈ ws ↔ w.Of t (.root d))
    (h : writeAll expand (ws.map Record.leaf) (leaf root.value root.key) = .ok m) :
    (m.entryAt? p).isSome ↔ p = [] ∨ ∃ w : Record, w.Of t (.root d) ∧ p <+: w.segments := by
  obtain ⟨hnone, hsome⟩ := entryAt?_of_writeAll h p
  by_cases hp : p = []
  · subst hp
    exact iff_of_true rfl (.inl rfl)
  rw [or_iff_right hp]
  cases hxs : (ws.map Record.leaf).filterMap (Leaf.pass p root) with
  | nil =>
      rw [hnone hp hxs]
      refine iff_of_false nofun ?_
      rintro ⟨w, hw, hprefix⟩
      have hpass := List.filterMap_eq_nil_iff.mp hxs w.leaf (List.mem_map_of_mem ((hmem w).mpr hw))
      exact (Leaf.pass_eq_none root).mp hpass hprefix
  | cons x rest =>
      obtain ⟨e, he, -⟩ := hsome _ _ _ hxs
      have hx : x ∈ (ws.map Record.leaf).filterMap (Leaf.pass p root) := by simp [hxs]
      obtain ⟨l, hl, hpass⟩ := List.mem_filterMap.mp hx
      obtain ⟨w, hw, rfl⟩ := List.mem_map.mp hl
      exact iff_of_true (Option.isSome_of_eq_some he)
        ⟨w, (hmem w).mp hw, (Leaf.pass_isSome root).mp (Option.isSome_of_eq_some hpass)⟩

/-- An entry is made by a step, the last one to the path on the way to the first record at or below
it, and what is left of the records there is written into it. -/
theorem exists_step_of_entryAt? (hmem : ∀ w, w ∈ ws ↔ w.Of t (.root d))
    (hpair : ws.Pairwise Record.Before)
    (h : writeAll expand (ws.map Record.leaf) (leaf root.value root.key) = .ok m)
    (he : m.entryAt? p = some e) :
    ∃ step, writeAll expand (remains p root ws) (leaf step.value step.key) = .ok e ∧
      (p ≠ [] → ∃ w, Record.First t d p w ∧ w.steps[p.length - 1]? = some step) := by
  obtain ⟨hnone, hsome⟩ := entryAt?_of_writeAll h p
  by_cases hp : p = []
  · subst hp
    cases he
    refine ⟨root, ?_, fun h => absurd rfl h⟩
    rwa [show remains [] root ws = ws.map Record.leaf from congrFun List.filterMap_eq_map' ws]
  cases hxs : (ws.map Record.leaf).filterMap (Leaf.pass p root) with
  | nil => rw [hnone hp hxs] at he; cases he
  | cons x rest =>
      obtain ⟨step, l⟩ := x
      obtain ⟨e', he', hw⟩ := hsome _ _ _ hxs
      obtain rfl := Option.some.inj (he.symm.trans he')
      refine ⟨step, by rwa [← remains_eq, hxs], fun _ => ?_⟩
      rw [List.filterMap_map] at hxs
      -- the first leaf that passes the path gives the step
      obtain ⟨ws₁, w, ws₂, hsplit, hnot, hpass, -⟩ := List.filterMap_eq_cons_iff.mp hxs
      refine ⟨w, first_of_split hmem hpair hsplit ?_ fun v hv => ?_, ?_⟩
      · exact (Leaf.pass_isSome root).mp (Option.isSome_of_eq_some hpass)
      · exact (Leaf.pass_eq_none root).mp (hnot v hv)
      · rcases (Leaf.pass_eq_some hpass).2.2.2 with ⟨hnil, -⟩ | ⟨-, hstep⟩
        · exact absurd hnil hp
        · exact hstep

/-- What is left of a record below a path ends there and can be expanded if the record ends at the
path and can be resolved. -/
theorem exists_expands_iff (hd : d.Forward) (hmem : ∀ w, w ∈ ws ↔ w.Of t (.root d)) :
    (∃ l ∈ remains p root ws, l.path = [] ∧ l.Expands (expansion t d.anchorNames.length)) ↔
      ∃ w : Record, w.Of t (.root d) ∧ w.segments = p ∧ w.Resolves := by
  constructor
  · rintro ⟨l, hl, hpath, hexp⟩
    obtain ⟨w, hw, step, hpass⟩ := mem_remains.mp hl
    obtain ⟨hsegments, -, hhop, -⟩ := Leaf.pass_eq_some hpass
    refine ⟨w, (hmem w).mp hw, ?_, (expands_iff hd ((hmem w).mp hw)).mp ?_⟩
    · rw [show w.segments = p ++ l.segments from hsegments, Leaf.segments, hpath]
      exact List.append_nil p
    · rwa [Leaf.Expands, ← hhop]
  · rintro ⟨w, hw, hends, hres⟩
    have hprefix : p <+: w.leaf.segments := hends ▸ List.prefix_refl _
    obtain ⟨⟨step, l⟩, hpass⟩ :=
      Option.isSome_iff_exists.mp ((Leaf.pass_isSome root).mpr hprefix)
    obtain ⟨hsegments, -, hhop, -⟩ := Leaf.pass_eq_some hpass
    refine ⟨l, mem_remains.mpr ⟨w, (hmem w).mpr hw, step, hpass⟩, ?_, ?_⟩
    · have hnil : l.segments = [] := List.append_right_eq_self.mp (hsegments.symm.trans hends)
      exact List.map_eq_nil_iff.mp hnil
    · rw [Leaf.Expands, hhop]
      exact (expands_iff hd hw).mpr hres

/-- The entries of a map into which recorded leaves were written hold what the leaves say. -/
theorem holds_of_writeAll (hd : d.Forward) (hmem : ∀ w, w ∈ ws ↔ w.Of t (.root d))
    (hpair : ws.Pairwise Record.Before)
    (h : writeAll (expansion t d.anchorNames.length) (ws.map Record.leaf)
      (leaf root.value root.key) = .ok m) (he : m.entryAt? p = some e) : Holds t d p e := by
  obtain ⟨step, hw, hfirst⟩ := exists_step_of_entryAt? hmem hpair h he
  have hvalue : e.value = (((ws.filter fun w => w.segments = p).getLast?).map
      (·.range)).getD step.value := by
    rw [value_of_writeAll hw, ← List.getLast?_map, remains_ends, List.getLast?_map]
    rfl
  refine ⟨fun hp => ?_, fun w hlast => ?_, ?_, ?_⟩
  · obtain ⟨w, hw', hstep⟩ := hfirst hp
    refine ⟨w, step, hw', hstep, key_of_writeAll hw, fun hends => ?_⟩
    rw [hvalue, List.filter_eq_nil_iff.mpr fun v hv => by
      simpa using hends v ((hmem v).mp hv)]
    rfl
  · rw [hvalue, getLast?_of_last hmem hpair hlast]
    rfl
  · refine (children_of_writeAll hw).imp_of_mem fun _ hb hab => ?_
    exact first_before_of_earlier hmem hpair hab ((mem_children_of_writeAll hw).mp hb)
  · rw [target_of_writeAll hw, ← exists_expands_iff hd hmem]
    exact or_iff_right nofun

end Content

/-- A document whose root has a span, and in which no span runs backwards, has a map.  The map has
the range of the root and no key; it has an entry at every path with a recorded leaf at or below it,
and at no other except the empty one, and the entries hold what the leaves say. -/
theorem exists_index_holds (t : LineTable) {d : Node} (hd : d.Forward) (hroot : d.span.isSome) :
    ∃ m r, index t d = .ok (some m) ∧ t.nodeRange d = .ok (some r) ∧ m.value = r ∧ m.key = none ∧
      ∀ p, ((m.entryAt? p).isSome ↔ p = [] ∨ ∃ w : Record, w.Of t (.root d) ∧ p <+: w.segments) ∧
        ∀ e, m.entryAt? p = some e → Holds t d p e := by
  obtain ⟨map, hm, hspan⟩ := exists_build_of_forward (t := t) hd d.anchorNames.length
    (s := .empty) (fun _ _ h => by cases h) (Node.mem_nodes_self d)
  obtain ⟨m, rfl⟩ := Option.isSome_iff_exists.mp (hspan.mpr hroot)
  obtain ⟨r, hr, hwrite⟩ := build_eq_some hm
  obtain ⟨ws, hls, hmem, hpair⟩ := InOrder.of_leaves (t := t) d []
  rw [show AnchorScope.empty.registers [] = AnchorScope.empty from rfl] at hls
  rw [hls] at hwrite
  -- the root is an entry made by a step of its own
  have hentries : writeAll _ (ws.map Record.leaf)
      (leaf (PathStep.mk (.index 0) r none).value none) = .ok m := hwrite
  refine ⟨m, r, hm, hr, ?_, key_of_writeAll hwrite, fun p => ⟨isSome_entryAt?_iff hmem hentries,
    fun e he => holds_of_writeAll hd hmem hpair hentries he⟩⟩
  rw [value_of_writeAll hwrite]
  cases hlast : ((ws.map Record.leaf).filter (·.path.isEmpty)).getLast? with
  | none => rfl
  | some l =>
      -- a leaf that ends at the root is the root
      obtain ⟨hl, hpath⟩ := List.mem_filter.mp (List.mem_of_getLast? hlast)
      obtain ⟨w, hw, rfl⟩ := List.mem_map.mp hl
      obtain ⟨-, -, -, hrange⟩ | ⟨step, c, v, -, -, rfl⟩ := Record.of_iff.mp ((hmem w).mp hw)
      · rw [hr] at hrange
        exact (Option.some.inj (Except.ok.inj hrange)).symm
      · cases hpath

/-- The tree of `a: &x {p: 1}`, `a: *x` and `b: 2`, the last key of which has lost its span. -/
def repeatedKey : Node :=
  .mapping (some ⟨0, 25⟩) none
    [(.scalar (some ⟨0, 1⟩) none "a",
      .mapping (some ⟨3, 12⟩) (some "x")
        [(.scalar (some ⟨7, 8⟩) none "p", .scalar (some ⟨10, 11⟩) none "1")]),
      (.scalar (some ⟨13, 14⟩) none "a", .alias (some ⟨16, 18⟩) none (some "x")),
      (.scalar none none "b", .scalar (some ⟨22, 23⟩) none "2")]

theorem exists_index_holds_repeatedKey :
    repeatedKey.Forward ∧ repeatedKey.span.isSome ∧ ∃ m e,
      index (.ofText "a: &x {p: 1}\na: *x\nb: 2\n") repeatedKey = .ok (some m) ∧
      (m.entryAt? [.key "b"]).isNone ∧ m.entryAt? [.key "a"] = some e ∧
      Holds (.ofText "a: &x {p: 1}\na: *x\nb: 2\n") repeatedKey [.key "a"] e ∧
      e.value.start = ⟨2, 4⟩ ∧ e.children.map Prod.fst = [.key "p"] ∧ e.target.isSome := by
  have hforward : repeatedKey.Forward := by decide
  have hroot : repeatedKey.span.isSome := rfl
  have hmap : (index (.ofText "a: &x {p: 1}\na: *x\nb: 2\n") repeatedKey).toOption.any (fun m =>
      m.any fun m => (m.entryAt? [.key "b"]).isNone && (m.entryAt? [.key "a"]).any fun e =>
        decide (e.value.start = ⟨2, 4⟩ ∧ e.children.map Prod.fst = [.key "p"] ∧
          e.target.isSome)) = true := by
    decide +kernel
  obtain ⟨map, hmap, hentry⟩ := Except.exists_ok_of_any hmap
  obtain ⟨m, rfl, hentry⟩ := Option.any_eq_true _ _ |>.mp hentry
  obtain ⟨hnone, hentry⟩ := Bool.and_eq_true_iff.mp hentry
  obtain ⟨e, he, hparts⟩ := Option.any_eq_true _ _ |>.mp hentry
  obtain ⟨m', r, hm', -, -, -, hholds⟩ :=
    exists_index_holds (.ofText "a: &x {p: 1}\na: *x\nb: 2\n") hforward hroot
  obtain rfl := Option.some.inj (Except.ok.inj (hmap.symm.trans hm'))
  exact ⟨hforward, hroot, m, e, hmap, hnone, he, (hholds _).2 e he, of_decide_eq_true hparts⟩

end RangeMap

end YamlAudit
