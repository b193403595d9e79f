import YamlAudit.Proofs.Document.Moved
import YamlAudit.Proofs.RangeMap.Content
import YamlAudit.Proofs.RangeMap.Down
import YamlAudit.Proofs.Source.Lines

/-!
# RangeMap — lines put in front

Whole lines in front of a text move every offset of the text by their length and every location down
by their number, and leave its column (`LineTable.Below`).  Walks and expansions look at locations
only to store them, so the map of the moved document is the map of the document further down.

* `LineTable.below_append`: lines put in front of a text.
* `visit_moved`, `expansion_moved`: one walk, and the walks behind aliases.
* `index_prepended`: the map of a document with lines put in front of its text.

The lines have to be whole, since anything else in front of the first line would move columns.  It
is the tree of the text that is moved here; that the longer text is read as such a tree is not part
of the statement, as the lines in front might be read as well.
-/

namespace YamlAudit

/-! ### Offsets and locations -/

theorem lastLine_append {a : List Char} (h : lastLine a = []) (b : List Char) :
    lastLine (a ++ b) = lastLine b := by
  induction b using List.reverseRecOn with
  | nil => rw [List.append_nil, h]; rfl
  | append_singleton b c ih => rw [← List.append_assoc, lastLine_concat, lastLine_concat, ih]

/-- A text that is empty or ends with a line has nothing on its last line. -/
theorem lastLine_eq_nil {text : List Char} (h : ∀ c ∈ text.getLast?, c = '\n') :
    lastLine text = [] := by
  cases text using List.reverseRecOn with
  | nil => rfl
  | append_singleton text c =>
      rw [lastLine_concat, if_pos (h c (by simp))]

namespace LineTable

/-- What is at an offset of one text is `n` characters further on in the other, `k` lines further
down. -/
def Below (t t' : LineTable) (n k : Int) : Prop :=
  ∀ offset, 0 ≤ offset → t'.location (offset + n) = (t.location offset).down k

/-- Whole lines in front of a text move it. -/
theorem below_append {lines : String} (h : ∀ c ∈ lines.toList.getLast?, c = '\n')
    (text : String) :
    (ofText text).Below (ofText (lines ++ text)) lines.length (lines.toList.count '\n') := by
  intro offset hoffset
  lift offset to Nat using hoffset
  have htake : (lines ++ text).toList.take (offset + lines.length) =
      lines.toList ++ text.toList.take offset := by
    rw [String.toList_append, ← String.length_toList, Nat.add_comm, List.take_length_add_append]
  rw [← Int.natCast_add, location_eq, location_eq, htake, lastLine_append (lastLine_eq_nil h)]
  simp only [Location.after, Location.down, Location.mk.injEq, List.count_append,
    String.length_append]
  omega

end LineTable

/-- A span that does not begin before the text and does not run backwards. -/
def Span.Proper (s : Span) : Prop := 0 ≤ s.start ∧ s.start ≤ s.stop

instance (s : Span) : Decidable s.Proper := inferInstanceAs (Decidable (_ ∧ _))

namespace Node

/-- No span in a tree begins before the text or runs backwards; some nodes may have none. -/
def Proper (d : Node) : Prop := ∀ n ∈ d.nodes, ∀ span ∈ n.span, span.Proper

instance (d : Node) : Decidable d.Proper :=
  inferInstanceAs (Decidable (∀ n ∈ d.nodes, ∀ span ∈ n.span, span.Proper))

theorem Proper.forward {d : Node} (h : d.Proper) : d.Forward :=
  fun n hn span hs => (h n hn span hs).2

end Node

namespace LineTable

variable {t t' : LineTable} {n k : Int}

/-- The range of a node moves with its span. -/
theorem Below.nodeRange (h : t.Below t' n k) {node : Node}
    (hspan : ∀ span ∈ node.span, span.Proper) :
    t'.nodeRange (node.moved n) = (t.nodeRange node).map (Option.map (Range.down · k)) := by
  cases hs : node.span with
  | none => simp [LineTable.nodeRange, hs, Except.map]
  | some span =>
      obtain ⟨hstart, hle⟩ := hspan span hs
      obtain ⟨r, hr, hrstart, hrstop⟩ := t.nodeRange_of_span hs hle
      have hs' : (node.moved n).span = some (span.moved n) := by rw [Node.span_moved, hs]; rfl
      obtain ⟨r', hr', hrstart', hrstop'⟩ := t'.nodeRange_of_span hs' (Int.add_le_add_right hle n)
      have hdown : r' = r.down k := by
        obtain ⟨start, stop, _⟩ := r
        obtain ⟨start', stop', _⟩ := r'
        dsimp only at hrstart hrstop hrstart' hrstop'
        subst hrstart hrstop hrstart' hrstop'
        simp only [Range.down, Range.mk.injEq]
        exact ⟨h _ hstart, h _ (Int.le_trans hstart hle)⟩
      rw [hr, hr', hdown]
      rfl

end LineTable

/-! ### Walks -/

/-- A path of which all ranges are `k` lines further down. -/
def pathDown (k : Int) (path : Option (List PathStep)) : Option (List PathStep) :=
  path.map (List.map (·.down k))

namespace RangeMap

variable {t t' : LineTable} {n k : Int} {expand expand' : Expansion}

theorem extend_down (path : Option (List PathStep)) (step : Option PathStep) :
    extend (pathDown k path) (step.map (·.down k)) = pathDown k (extend path step) := by
  cases path <;> cases step <;> simp [extend, pathDown]

theorem keyStep_down (name : String) (key value : Option Range) :
    keyStep name (key.map (·.down k)) (value.map (·.down k)) =
      (keyStep name key value).map (·.down k) := by
  cases key <;> cases value <;> rfl

theorem itemStep_down (position : Nat) (value : Option Range) :
    itemStep position (value.map (·.down k)) = (itemStep position value).map (·.down k) := by
  cases value <;> rfl

/-- Aliases in a scope are expanded to maps that lie further down. -/
def ExpandsBelow (n k : Int) (expand expand' : Expansion) (s : AnchorScope) : Prop :=
  ∀ source, expand' (s.moved n) source = (expand s source).map (Option.map (down k))

/-- What a walk leaves, moved and further down. -/
def walkDown (n k : Int) (q : RangeMap × AnchorScope) : RangeMap × AnchorScope :=
  (q.1.down k, q.2.moved n)

theorem recordLeaf_moved (h : t.Below t' n k) {node : Node}
    (hspan : ∀ span ∈ node.span, span.Proper) {s : AnchorScope}
    (he : ExpandsBelow n k expand expand' s) (path : Option (List PathStep)) (m : RangeMap) :
    recordLeaf t' expand' (node.moved n) (pathDown k path) (s.moved n) (m.down k) =
      (recordLeaf t expand node path s m).map (down k) := by
  unfold recordLeaf
  rw [h.nodeRange hspan]
  cases t.nodeRange node with
  | error e => rfl
  | ok range =>
      cases range with
      | none => rfl
      | some range =>
          cases path with
          | none => rfl
          | some steps =>
              have hrecord : ∀ target : Option RangeMap,
                  record (range.down k) (target.map (down k)) (steps.map (·.down k)) (m.down k) =
                    (record range target steps m).down k :=
                fun target => record_down range target steps m
              cases node with
              | «alias» span anchor source =>
                  simp only [Except.map, bind, Except.bind, Option.map_some, Node.moved, pathDown]
                  rw [targetAt_down]
                  -- a target that is there already stays, in both maps
                  cases m.targetAt steps with
                  | some old => exact congrArg Except.ok (hrecord none)
                  | none =>
                      simp only [Option.map_none]
                      rw [he source]
                      cases expand s source with
                      | error e => rfl
                      | ok target => exact congrArg Except.ok (hrecord target)
              | _ => exact congrArg Except.ok (hrecord none)

/-- Walks through trees that have spans in the text, with scopes in which aliases are expanded to maps
that lie further down. -/
def WalksBelow (t t' : LineTable) (n k : Int) (expand expand' : Expansion) (P : AnchorScope → Prop)
    (node : Node) : Prop :=
  ∀ path m s, P s → visit t' expand' (node.moved n) (pathDown k path) (m.down k) (s.moved n) =
    (visit t expand node path m s).map (walkDown n k)

section Walk

variable {all : List Node} {P : AnchorScope → Prop}

theorem visitItems_moved (h : t.Below t' n k) (hP : KeptBy all P)
    (hspans : ∀ x ∈ all, ∀ span ∈ x.span, span.Proper)
    {items : List Node} (hall : ∀ x ∈ Node.nodesOfItems items, x ∈ all)
    (ih : ∀ item ∈ items, (∀ x ∈ item.nodes, x ∈ all) → WalksBelow t t' n k expand expand' P item)
    (path : Option (List PathStep)) :
    ∀ i m s, P s → visitItems t' expand' i (Node.movedItems n items) (pathDown k path) (m.down k)
      (s.moved n) = (visitItems t expand i items path m s).map (walkDown n k) := by
  induction items with
  | nil => exact fun _ _ _ _ => rfl
  | cons item rest ih' =>
      intro i m s hs
      obtain ⟨hitem, hrest⟩ := List.forall_mem_append.mp hall
      rw [Node.movedItems, visitItems, visitItems,
        h.nodeRange (hspans item (hitem _ (Node.mem_nodes_self item)))]
      cases t.nodeRange item with
      | error e => rfl
      | ok range =>
          simp only [Except.map, bind, Except.bind, itemStep_down, extend_down]
          rw [ih item List.mem_cons_self hitem _ m s hs]
          cases hv : visit t expand item (extend path (itemStep i range)) m s with
          | error e => rfl
          | ok q =>
              have hq : P q.2 := (visit_eq_ok hv).1 ▸ hP.registers hitem hs
              exact ih' hrest (fun c hc => ih c (List.mem_cons_of_mem _ hc)) (i + 1) q.1 q.2 hq

theorem visitPairs_moved (h : t.Below t' n k) (hP : KeptBy all P)
    (hspans : ∀ x ∈ all, ∀ span ∈ x.span, span.Proper)
    {pairs : List (Node × Node)} (hall : ∀ x ∈ Node.nodesOfPairs pairs, x ∈ all)
    (ih : ∀ pair ∈ pairs, (∀ x ∈ pair.2.nodes, x ∈ all) →
      WalksBelow t t' n k expand expand' P pair.2) (path : Option (List PathStep)) :
    ∀ m s, P s → visitPairs t' expand' (Node.movedPairs n pairs) (pathDown k path) (m.down k)
      (s.moved n) = (visitPairs t expand pairs path m s).map (walkDown n k) := by
  induction pairs with
  | nil => exact fun _ _ _ => rfl
  | cons pair rest ih' =>
      obtain ⟨key, value⟩ := pair
      intro m s hs
      obtain ⟨hkey, hothers⟩ := List.forall_mem_append.mp hall
      obtain ⟨hvalue, hrest⟩ := List.forall_mem_append.mp hothers
      have ihr := ih' hrest fun p hp => ih p (List.mem_cons_of_mem _ hp)
      -- only a scalar key makes a step; any other key and its value are registered and not walked
      -- through
      by_cases hscalar : ∃ span anchor name, key = .scalar span anchor name
      · obtain ⟨span, anchor, name, rfl⟩ := hscalar
        have hself := hkey _ (Node.mem_nodes_self _)
        have hkeyRange := h.nodeRange (hspans _ hself)
        have hvalueRange := h.nodeRange (hspans value (hvalue _ (Node.mem_nodes_self value)))
        have hs' := hP _ hself s hs
        have hregister := AnchorScope.register_moved (n := n) s (.scalar span anchor name)
        rw [Node.moved] at hkeyRange hregister
        rw [Node.movedPairs, Node.moved, visitPairs, visitPairs, hkeyRange, hvalueRange]
        cases t.nodeRange (.scalar span anchor name) with
        | error e => rfl
        | ok keyRange =>
            cases t.nodeRange value with
            | error e => rfl
            | ok valueRange =>
                simp only [Except.map, bind, Except.bind, keyStep_down, extend_down]
                rw [hregister, ih _ List.mem_cons_self hvalue _ m _ hs']
                cases hv : visit t expand value (extend path (keyStep name keyRange valueRange)) m
                    (s.register (.scalar span anchor name)) with
                | error e => rfl
                | ok q =>
                    have hq : P q.2 := (visit_eq_ok hv).1 ▸ hP.registers hvalue hs'
                    exact ihr q.1 q.2 hq
      · have hne : ∀ span anchor name, key = .scalar span anchor name → False :=
          fun _ _ _ h => hscalar ⟨_, _, _, h⟩
        have hne' : ∀ span anchor name, key.moved n = .scalar span anchor name → False := by
          intro _ _ _ h
          cases key with
          | scalar => exact hne _ _ _ rfl
          | _ => cases h
        rw [Node.movedPairs, visitPairs.eq_3 _ _ _ _ _ _ _ _ hne,
          visitPairs.eq_3 _ _ _ _ _ _ _ _ hne', AnchorScope.registerAll_moved,
          AnchorScope.registerAll_moved]
        refine ihr m _ ?_
        rw [AnchorScope.registerAll_eq, AnchorScope.registerAll_eq]
        exact hP.registers hvalue (hP.registers hkey hs)

/-- A walk that ends with the node itself records it with itself registered. -/
theorem recordSelf_moved (h : t.Below t' n k) (hP : KeptBy all P)
    (hspans : ∀ x ∈ all, ∀ span ∈ x.span, span.Proper)
    (he : ∀ s, P s → ExpandsBelow n k expand expand' s) {node : Node} (hself : node ∈ all)
    (path : Option (List PathStep)) (m : RangeMap) {s : AnchorScope} (hs : P s) :
    (do return (← recordLeaf t' expand' (node.moved n) (pathDown k path)
        ((s.moved n).register (node.moved n)) (m.down k), (s.moved n).register (node.moved n))) =
      ((do return (← recordLeaf t expand node path (s.register node) m, s.register node) :
        Except Reversed _).map (walkDown n k)) := by
  rw [AnchorScope.register_moved,
    recordLeaf_moved h (hspans _ hself) (he _ (hP _ hself s hs)) path m]
  cases recordLeaf t expand node path (s.register node) m <;> rfl

/-- A walk through a moved tree makes the map of the tree further down. -/
theorem visit_moved (h : t.Below t' n k) (hP : KeptBy all P)
    (hspans : ∀ x ∈ all, ∀ span ∈ x.span, span.Proper)
    (he : ∀ s, P s → ExpandsBelow n k expand expand' s) {node : Node}
    (hall : ∀ x ∈ node.nodes, x ∈ all) : WalksBelow t t' n k expand expand' P node := by
  induction node using Node.induction with
  | scalar | «alias» =>
      intro path m s hs
      exact recordSelf_moved h hP hspans he (hall _ (Node.mem_nodes_self _)) path m hs
  | bare span anchor =>
      intro path m s hs
      exact congrArg (fun s' => Except.ok (m.down k, s'))
        (AnchorScope.register_moved s (.bare span anchor))
  | sequence span anchor items ih =>
      intro path m s hs
      obtain ⟨hself, hitems⟩ := List.forall_mem_cons.mp hall
      -- an empty sequence records itself; any other walks through its items
      cases items with
      | nil => exact recordSelf_moved h hP hspans he hself path m hs
      | cons item rest =>
          have hvisit := visitItems_moved h hP hspans hitems ih path 0 m _ (hP _ hself s hs)
          rw [← AnchorScope.register_moved] at hvisit
          rw [Node.moved, visit, visit]
          rw [Node.moved] at hvisit
          rw [hvisit]
          cases visitItems t expand 0 (item :: rest) path m _ <;> rfl
  | mapping span anchor pairs ih =>
      intro path m s hs
      obtain ⟨hself, hpairs⟩ := List.forall_mem_cons.mp hall
      cases pairs with
      | nil => exact recordSelf_moved h hP hspans he hself path m hs
      | cons pair rest =>
          have hvisit := visitPairs_moved h hP hspans hpairs (fun p hp => (ih p hp).2) path m _
            (hP _ hself s hs)
          rw [← AnchorScope.register_moved] at hvisit
          rw [Node.moved, visit, visit]
          rw [Node.moved] at hvisit
          rw [hvisit]
          cases visitPairs t expand (pair :: rest) path m _ <;> rfl

end Walk

/-! ### Aliases -/

section Document

variable {d : Node}

theorem rootedAt_moved (h : t.Below t' n k) (hd : d.Proper)
    (he : ∀ s, BindsIn d s → ExpandsBelow n k expand expand' s) {node : Node} (hn : node ∈ d.nodes)
    {s : AnchorScope} (hs : BindsIn d s) :
    rootedAt t' expand' (node.moved n) (s.moved n) =
      (rootedAt t expand node s).map (Option.map (down k)) := by
  rw [rootedAt, rootedAt, h.nodeRange (hd node hn)]
  cases t.nodeRange node with
  | error e => rfl
  | ok range =>
      cases range with
      | none => rfl
      | some range =>
          have hvisit := visit_moved h (bindsIn_kept d) hd he (fun _ => Node.nodes_subset hn)
            (some []) (leaf range none) s hs
          show (visit t' expand' (node.moved n) (pathDown k (some [])) ((leaf range none).down k)
            (s.moved n) >>= fun q => pure (some q.1)) = _
          rw [hvisit]
          show _ = (visit t expand node (some []) (leaf range none) s >>= fun q =>
            pure (some q.1)).map _
          cases visit t expand node (some []) (leaf range none) s <;> rfl

/-- The maps behind aliases of a document lie further down as well. -/
theorem expansion_moved (h : t.Below t' n k) (hd : d.Proper) (budget : Nat) {s : AnchorScope}
    (hs : BindsIn d s) : ExpandsBelow n k (expansion t budget) (expansion t' budget) s := by
  induction budget generalizing s with
  | zero => exact fun _ => rfl
  | succ budget ih =>
      intro source
      cases source with
      | none => rfl
      | some name =>
          rw [expansion, expansion, AnchorScope.referent_moved]
          cases href : s.referent name with
          | none => rfl
          | some node =>
              have hbound := hs name node (Within.referent href).2
              show build t' budget (node.moved n) _ = (build t budget node _).map _
              rw [AnchorScope.entering_moved, build_eq, build_eq]
              exact rootedAt_moved h hd (fun s hs => ih hs) hbound
                (by rwa [BindsIn, entering_anchors])

/-- The map of a moved document lies further down. -/
theorem index_moved (h : t.Below t' n k) (hd : d.Proper) :
    index t' (d.moved n) = (index t d).map (Option.map (down k)) := by
  rw [index, index, Node.anchorNames_moved, build_eq, build_eq]
  exact rootedAt_moved h hd (fun s hs => expansion_moved h hd _ hs) (Node.mem_nodes_self d)
    (s := .empty) fun _ _ h => by cases h

end Document

/-- Whole lines in front of a text move what is reported down by their number, and nothing else.  A
document whose spans lie in the text is indexed with success, and so is the same document with all
spans moved by the length of the lines in front: its map is the same map, children and targets and
their order included, with every range as many lines further down.  So the place of every path lies as
many lines further down, with the aliases on the way. -/
theorem index_prepended {lines : String} (h : ∀ c ∈ lines.toList.getLast?, c = '\n') (text : String)
    {d : Node} (hd : d.Proper) :
    ∃ m, index (.ofText text) d = .ok m ∧
      index (.ofText (lines ++ text)) (d.moved lines.length) =
        .ok (m.map (down (lines.toList.count '\n'))) ∧
      ∀ map, m = some map → ∀ path aspect,
        (map.down (lines.toList.count '\n')).locate path aspect =
          (map.locate path aspect).down (lines.toList.count '\n') := by
  obtain ⟨m, hm, -⟩ := exists_build_of_forward (t := .ofText text) hd.forward d.anchorNames.length
    (s := .empty) (fun _ _ h => by cases h) (Node.mem_nodes_self d)
  refine ⟨m, hm, ?_, fun map _ path aspect => locate_down map path aspect⟩
  rw [index_moved (LineTable.below_append h text) hd, index, hm]
  rfl

/-- The tree of `a: &x [1]` and `b: *x`, behind which stands an empty item without a span. -/
def aliasedSequence : Node :=
  .mapping (some ⟨0, 16⟩) none
    [(.scalar (some ⟨0, 1⟩) none "a",
      .sequence (some ⟨3, 9⟩) (some "x") [.scalar (some ⟨7, 8⟩) none "1", .scalar none none ""]),
      (.scalar (some ⟨10, 11⟩) none "b", .alias (some ⟨13, 15⟩) none (some "x"))]

theorem index_prepended_aliasedSequence :
    (∀ c ∈ "# c\n\n".toList.getLast?, c = '\n') ∧ aliasedSequence.Proper ∧
      ∃ m, index (.ofText "a: &x [1]\nb: *x\n") aliasedSequence = .ok (some m) ∧
        index (.ofText ("# c\n\n" ++ "a: &x [1]\nb: *x\n")) (aliasedSequence.moved 5) =
          .ok (some (m.down 2)) ∧
        m.locate [.key "b", .index 0] .valueStart = ⟨⟨1, 8⟩, [⟨2, 4⟩]⟩ ∧
        (m.down 2).locate [.key "b", .index 0] .valueStart = ⟨⟨3, 8⟩, [⟨4, 4⟩]⟩ := by
  have hlast : "# c\n\n".toList.getLast? = some '\n' := by decide +kernel
  have hlines : ∀ c ∈ "# c\n\n".toList.getLast?, c = '\n' := fun c hc =>
    (Option.some.inj (hlast.symm.trans hc)).symm
  have hproper : aliasedSequence.Proper := by decide
  have hplace : (index (.ofText "a: &x [1]\nb: *x\n") aliasedSequence).toOption.any (fun m =>
      m.any fun m => decide (m.locate [.key "b", .index 0] .valueStart =
        ⟨⟨1, 8⟩, [⟨2, 4⟩]⟩)) = true := by
    decide +kernel
  obtain ⟨m, hm, hmoved, hlocate⟩ := index_prepended hlines "a: &x [1]\nb: *x\n" hproper
  obtain ⟨m', hm', hplace⟩ := Except.exists_ok_of_any hplace
  obtain rfl := Except.ok.inj (hm.symm.trans hm')
  obtain ⟨map, rfl, hplace⟩ := Option.any_eq_true _ _ |>.mp hplace
  have hplace := of_decide_eq_true hplace
  refine ⟨hlines, hproper, map, hm, hmoved, hplace, (hlocate map rfl _ _).trans ?_⟩
  rw [hplace]
  rfl

end RangeMap

end YamlAudit
