import YamlAudit.Proofs.Audit.Typed
import YamlAudit.Proofs.Document.Grammar
import YamlAudit.Proofs.Yaml.Rooted

/-!
# Audit — how deep values lie

The limit on the depth is kept by the tree of a text, where an alias is a leaf.  In the value an alias
is what it stands for, so a value lies as deep as the way to it through the document is long, and that
is made of stretches, each from the root or from what an alias stands for down to the next alias.

* `Graph.Brings`, `Graph.Way`: the pairs that a spot has to offer and the ways along a path, with what
  the aliases followed on them stand for.
* `Graph.Way.length_le`: every alias that is followed adds no more than the height of what it stands
  for.
* `Graph.Of.exists_way`: a path from node to node in the graph is one from spot to spot.
* `Loader.depth_le_of_load`: how deep the values of a loaded document lie.
-/

namespace YamlAudit

namespace Spot

theorem height_lt_of_mem_children {o c : Spot} (h : c ∈ o.children) :
    c.node.height < o.node.height := by
  obtain ⟨p, hp, rfl⟩ := mem_children_iff.mp h
  exact Node.height_child (Node.parts_map_snd o.node ▸ List.mem_map_of_mem hp)

/-- Of what lies inside a spot only the spot itself is as high. -/
theorem Inside.eq_or_height_lt {a b : Spot} (h : Inside a b) :
    b = a ∨ b.node.height < a.node.height := by
  induction h with
  | refl => exact .inl rfl
  | tail _ hc ih =>
      have hlt := height_lt_of_mem_children hc
      rcases ih with rfl | hlt'
      · exact .inr hlt
      · exact .inr (Nat.lt_trans hlt hlt')

/-- The heights of some spots together. -/
def heights : List Spot → Nat
  | [] => 0
  | o :: rest => o.node.height + heights rest

theorem heights_append (a b : List Spot) : heights (a ++ b) = heights a + heights b := by
  induction a with
  | nil => exact (Nat.zero_add _).symm
  | cons o rest ih => rw [List.cons_append, heights, heights, ih, Nat.add_assoc]

end Spot

/-- Some alias of a document stands for a spot. -/
def Node.Refers (d : Node) (r : Spot) : Prop :=
  ∃ o, Spot.Inside (.root d) o ∧ o.referent = some r

namespace Node.Refers

variable {d : Node} {r : Spot}

/-- What an alias stands for is the root of the document or less high than that. -/
theorem eq_or_height_lt (h : d.Refers r) : r = .root d ∨ r.node.height < d.height := by
  obtain ⟨o, ho, hr⟩ := h
  exact (ho.referent hr).eq_or_height_lt

theorem exists_alias (h : d.Refers r) : ∃ n ∈ d.nodes, n.isAlias := by
  obtain ⟨o, ho, hr⟩ := h
  exact ⟨o.node, ho.mem_nodes, Spot.isAlias_of_referent hr⟩

end Node.Refers

theorem Yaml.NodeContent.eq_sequence_of_mem_items {c : NodeContent} {n : Nat} (h : n ∈ c.items) :
    c = .sequence c.items := by
  cases c with
  | sequence => rfl
  | _ => cases h

namespace Yaml.Graph

/-- A spot has a pair to offer: a mapping has those written in it and those that its merge keys bring,
a sequence those of its items, an alias those of what it stands for.  What the aliases followed on
the way to the pair stand for is kept. -/
inductive Brings (g : Graph) : Spot → List Spot → Spot × Spot → Prop
  | own {o p} : p ∈ o.pairs → g.Brings o [] p
  | merged {o q followed p} : q ∈ o.pairs → (g.get q.1.ref).tag = ScalarType.merge.tag →
      g.Brings q.2 followed p → g.Brings o followed p
  | item {o span anchor items c followed p} : o.node = .sequence span anchor items →
      c ∈ o.children → g.Brings c followed p → g.Brings o followed p
  | follow {o r followed p} : o.referent = some r → g.Brings r followed p →
      g.Brings o (r :: followed) p

/-- A path leads from a spot to another one.  What the aliases followed on the way stand for is
kept. -/
inductive Way (g : Graph) (mode : BuildMode) : Spot → List Segment → List Spot → Spot → Prop
  | here {o} : g.Way mode o [] [] o
  | item {o span anchor items i c rest followed e} : o.node = .sequence span anchor items → 0 ≤ i →
      o.children[i.toNat]? = some c → g.Way mode c rest followed e →
      g.Way mode o (.index i :: rest) followed e
  | member {o p name rest followed later e} : g.Brings o followed p →
      g.Keyed mode p.1.ref (.text name) → g.Way mode p.2 rest later e →
      g.Way mode o (.key name :: rest) (followed ++ later) e
  | follow {o r path followed e} : o.referent = some r → g.Way mode r path followed e →
      g.Way mode o path (r :: followed) e

variable {T : TagRule} {g : Graph} {mode : BuildMode} {d : Node} {o e : Spot}
  {followed : List Spot} {path : List Segment}

/-! ### How long a way is -/

/-- The value of a pair lies below the spot that offers it, apart from the aliases in between. -/
theorem Brings.height_lt {p : Spot × Spot} (h : g.Brings o followed p) :
    p.2.node.height < o.node.height + Spot.heights followed := by
  induction h with
  | own hp => exact Spot.height_lt_of_mem_children (Spot.pairs_mem_children hp).2
  | merged hq _ _ ih =>
      have := Spot.height_lt_of_mem_children (Spot.pairs_mem_children hq).2
      omega
  | item _ hc _ ih =>
      have := Spot.height_lt_of_mem_children hc
      omega
  | follow _ _ ih =>
      rw [Spot.heights]
      omega

/-- Every alias that is followed adds no more to a path than the height of what it stands for. -/
theorem Way.length_le (h : g.Way mode o path followed e) :
    path.length + e.node.height ≤ o.node.height + Spot.heights followed := by
  induction h with
  | here => simp [Spot.heights]
  | item _ _ hc _ ih =>
      have := Spot.height_lt_of_mem_children (List.mem_of_getElem? hc)
      rw [List.length_cons]
      omega
  | member hp _ _ ih =>
      have := hp.height_lt
      rw [Spot.heights_append, List.length_cons]
      omega
  | follow _ _ ih =>
      rw [Spot.heights]
      omega

/-! ### What is followed -/

/-- What a spot of a document has to offer lies in the document, and what is followed on the way to it
stands for aliases of the document. -/
theorem Brings.inside {p : Spot × Spot} (h : g.Brings o followed p)
    (ho : Spot.Inside (.root d) o) :
    Spot.Inside (.root d) p.1 ∧ Spot.Inside (.root d) p.2 ∧ ∀ r ∈ followed, d.Refers r := by
  induction h with
  | own hp =>
      obtain ⟨hkey, hvalue⟩ := Spot.pairs_mem_children hp
      exact ⟨ho.tail hkey, ho.tail hvalue, List.forall_mem_nil _⟩
  | merged hq _ _ ih => exact ih (ho.tail (Spot.pairs_mem_children hq).2)
  | item _ hc _ ih => exact ih (ho.tail hc)
  | follow hr _ ih =>
      obtain ⟨hkey, hvalue, hall⟩ := ih (ho.referent hr)
      exact ⟨hkey, hvalue, List.forall_mem_cons.mpr ⟨⟨_, ho, hr⟩, hall⟩⟩

theorem Way.inside (h : g.Way mode o path followed e) (ho : Spot.Inside (.root d) o) :
    Spot.Inside (.root d) e ∧ ∀ r ∈ followed, d.Refers r := by
  induction h with
  | here => exact ⟨ho, List.forall_mem_nil _⟩
  | item _ _ hc _ ih => exact ih (ho.tail (List.mem_of_getElem? hc))
  | member hp _ _ ih =>
      obtain ⟨-, hvalue, hall⟩ := hp.inside ho
      obtain ⟨he, hlater⟩ := ih hvalue
      exact ⟨he, List.forall_mem_append.mpr ⟨hall, hlater⟩⟩
  | follow hr _ ih =>
      obtain ⟨he, hall⟩ := ih (ho.referent hr)
      exact ⟨he, List.forall_mem_cons.mpr ⟨⟨_, ho, hr⟩, hall⟩⟩

/-! ### From the graph to the document -/

theorem Brings.of_home {p : Spot × Spot} (h : g.Brings o.home followed p) :
    ∃ followed, g.Brings o followed p := by
  cases hr : o.referent with
  | none => exact ⟨followed, by rwa [Spot.home, hr] at h⟩
  | some r => exact ⟨r :: followed, .follow hr (by rwa [Spot.home_of_referent hr] at h)⟩

theorem Way.of_home (h : g.Way mode o.home path followed e) :
    ∃ followed, g.Way mode o path followed e := by
  cases hr : o.referent with
  | none => exact ⟨followed, by rwa [Spot.home, hr] at h⟩
  | some r => exact ⟨r :: followed, .follow hr (by rwa [Spot.home_of_referent hr] at h)⟩

/-- What the value of a merge key has to offer is offered by whatever offers the key. -/
theorem Brings.trans {q p : Spot × Spot} {later : List Spot} (hq : g.Brings o followed q)
    (htag : (g.get q.1.ref).tag = ScalarType.merge.tag) (hp : g.Brings q.2 later p) :
    g.Brings o (followed ++ later) p := by
  induction hq with
  | own hq => exact .merged hq htag hp
  | merged hq' htag' _ ih => exact .merged hq' htag' (ih htag hp)
  | item hn hc _ ih => exact .item hn hc (ih htag hp)
  | follow hr _ ih => exact .follow hr (ih htag hp)

namespace Of

/-- The node of a spot that is drawn with items is a sequence, and the items are its children. -/
theorem sequence (h : g.Of T d) (ho : Spot.Inside (.root d) o) {items : List Nat}
    (hc : (g.get o.ref).content = .sequence items) :
    ∃ span anchor nodes, o.home.node = .sequence span anchor nodes ∧
      items = o.home.children.map Spot.ref := by
  have hdraws := (h.home_has ho).draws
  replace hc : (g.get o.home.number).content = .sequence items := hc
  rcases (h.written _ ho.home.mem_nodes).cases (h.isAlias_home ho) with
    ⟨_, _, _, hn⟩ | ⟨span, anchor, nodes, hn⟩ | ⟨_, _, _, hn⟩
  · rw [hdraws.content_scalar hn] at hc; cases hc
  · rw [hdraws.content_sequence hn] at hc
    exact ⟨span, anchor, nodes, hn, (NodeContent.sequence.inj hc).symm⟩
  · rw [hdraws.content_mapping hn] at hc; cases hc

/-- The pairs of the node of a spot are drawn from those written there. -/
theorem pairs (h : g.Of T d) (ho : Spot.Inside (.root d) o) {p : Nat × Nat}
    (hp : p ∈ (g.get o.ref).content.pairs) : ∃ q ∈ o.home.pairs, p = (q.1.ref, q.2.ref) := by
  have hdraws := (h.home_has ho).draws
  replace hp : p ∈ (g.get o.home.number).content.pairs := hp
  rcases (h.written _ ho.home.mem_nodes).cases (h.isAlias_home ho) with
    ⟨_, _, _, hn⟩ | ⟨_, _, _, hn⟩ | ⟨_, _, _, hn⟩
  · rw [hdraws.content_scalar hn] at hp; cases hp
  · rw [hdraws.content_sequence hn] at hp; cases hp
  · rw [hdraws.content_mapping hn] at hp
    obtain ⟨q, hq, rfl⟩ := List.mem_map.mp hp
    exact ⟨q, hq, rfl⟩

/-- What the node of a spot offers is brought to the spot. -/
theorem exists_brings (h : g.Of T d) {n : Nat} {p : Nat × Nat} (hp : g.Offers n p) :
    ∀ {o : Spot}, Spot.Inside (.root d) o → o.ref = n →
      ∃ followed q, g.Brings o followed q ∧ p = (q.1.ref, q.2.ref) := by
  induction hp with
  | own hp =>
      rintro o ho rfl
      obtain ⟨q, hq, rfl⟩ := h.pairs ho hp
      obtain ⟨followed, hbrings⟩ := (Brings.own hq).of_home (g := g)
      exact ⟨followed, q, hbrings, rfl⟩
  | @merged n _ source p _ htag hsource _ ihq ihp =>
      rintro o ho rfl
      obtain ⟨followed, k, hk, rfl⟩ := ihq ho rfl
      obtain ⟨-, hin, -⟩ := hk.inside ho
      -- the source is what the merge key has for a value, or an item of that
      obtain ⟨later, q, hq, rfl⟩ : ∃ later q, g.Brings k.2 later q ∧ p = (q.1.ref, q.2.ref) := by
        rcases hsource with rfl | hsource
        · exact ihp hin rfl
        · obtain ⟨span, anchor, nodes, hn, hitems⟩ :=
            h.sequence hin (NodeContent.eq_sequence_of_mem_items hsource)
          obtain ⟨c, hc, rfl⟩ := List.mem_map.mp (hitems ▸ hsource)
          obtain ⟨later, q, hq, rfl⟩ := ihp (hin.home.tail hc) rfl
          obtain ⟨later, hq⟩ := (Brings.item hn hc hq).of_home
          exact ⟨later, q, hq, rfl⟩
      exact ⟨_, q, hk.trans htag hq, rfl⟩

/-- A path from node to node is one from spot to spot. -/
theorem exists_way (h : g.Of T d) {n k : Nat} (hleads : g.Leads mode n path k) :
    ∀ {o : Spot}, Spot.Inside (.root d) o → o.ref = n →
      ∃ followed e, g.Way mode o path followed e ∧ e.ref = k := by
  induction hleads with
  | here => exact fun {o} _ href => ⟨[], o, .here, href⟩
  | step hstep _ ih =>
      rintro o ho rfl
      cases hstep with
      | item hc hi hitem =>
          obtain ⟨span, anchor, nodes, hn, rfl⟩ := h.sequence ho hc
          rw [List.getElem?_map] at hitem
          obtain ⟨c, hc, rfl⟩ := Option.map_eq_some_iff.mp hitem
          obtain ⟨followed, e, hway, he⟩ := ih (ho.home.tail (List.mem_of_getElem? hc)) rfl
          obtain ⟨followed, hway⟩ := (Way.item hn hi hc hway).of_home
          exact ⟨followed, e, hway, he⟩
      | member hp hkey =>
          obtain ⟨followed, q, hq, rfl⟩ := h.exists_brings hp ho rfl
          obtain ⟨later, e, hway, he⟩ := ih (hq.inside ho).2.1 rfl
          exact ⟨_, e, .member hq hkey hway, he⟩
      | entry hc hm hp hkey =>
          obtain ⟨span, anchor, nodes, hn, rfl⟩ := h.sequence ho hc
          obtain ⟨c, hc, rfl⟩ := List.mem_map.mp hm
          obtain ⟨followed, q, hq, rfl⟩ := h.exists_brings hp (ho.home.tail hc) rfl
          obtain ⟨followed, hq⟩ := (Brings.item hn hc hq).of_home
          obtain ⟨later, e, hway, he⟩ := ih (hq.inside ho).2.1 rfl
          exact ⟨_, e, .member hq hkey hway, he⟩

end Of

end Yaml.Graph

/-! ### Loaded documents -/

namespace Yaml

theorem Markup.filter_events (parts : List Markup) :
    (Markup.events parts).filter (fun e => !e.kind.isStream) = Markup.events parts := by
  refine List.filter_eq_self.mpr fun e he => ?_
  obtain ⟨m, hm, rfl⟩ := List.mem_map.mp he
  exact (List.mem_filter.mp hm).2

/-- A tree that is read lies within the limit. -/
theorem Tree.height_le {limit : Int} {version : Version} {source : List Char} {d : Node}
    (h : (Tree.read limit version source).tree = .ok (some d)) : (d.height : Int) ≤ limit := by
  obtain ⟨-, hrun⟩ := MarkupRun.run_of_tree h
  rw [← Markup.filter_events] at hrun
  obtain ⟨_, _, _, _, -, -, -, hbody, -⟩ :=
    compose_eq_some_iff.mp (compose_eq_ok_iff.mpr ⟨_, hrun, rfl⟩)
  simpa using hbody.height_le

/-- The graph of a text that has no tree has no root. -/
theorem Graph.root_of_read {limit : Int} {version : Version} {source : List Char} {a : Assembly}
    (htree : (Tree.read limit version source).tree = .ok none)
    (h : (Graph.empty.read version source).result = .ok a) : a.root = none := by
  obtain ⟨-, p, hp, hfinish⟩ := MarkupRun.tree_eq_ok htree
  obtain rfl : p = .before := by cases p <;> cases hfinish; rfl
  rw [Assembly.run_ends (fun m hm => .inr (Markup.parts_of_run_before hp m hm))
    (Graph.run_of_read h)]
  rfl

/-- A text without a document is read as null. -/
theorem ValueReader.read_rootless {r : ValueReader} (hr : r.builder = .empty) {literalKeys : Bool}
    {source : List Char} {data : Datum} {a : Assembly}
    (h : (r.read literalKeys source).1 = .ok data)
    (ha : (Graph.empty.read r.version source).result = .ok a) (hroot : a.root = none) :
    data.value = .null := by
  obtain ⟨a', ha', hnone, -⟩ := read_eq_ok hr h
  obtain rfl : a' = a := Except.ok.inj (ha'.symm.trans ha)
  rw [hnone hroot]

end Yaml

namespace Datum

/-- The containers that a path goes into, that of the datum first. -/
def entered : Datum → List Segment → List Nat
  | _, [] => []
  | d, segment :: rest =>
    match d.value, d.step? segment with
    | .ref n, some c => n :: c.entered rest
    | _, _ => []

/-- Nothing lies below an atom. -/
theorem eq_nil_of_find? {d x : Datum} {path : List Segment} (hd : d.value.IsAtom)
    (h : d.find? path = some x) : path = [] := by
  cases path with
  | nil => rfl
  | cons segment rest =>
      obtain ⟨y, hy, -⟩ := Option.bind_eq_some_iff.mp h
      obtain ⟨c, _, hc, -⟩ := Datum.step?_eq_some hy
      rw [hc] at hd
      exact hd.elim

end Datum

namespace Loader

open Yaml Graph

/-- The depth of a document as it is written is within the limit, and a value lies no deeper than the
document and what the aliases stand for that are followed on the way to it are high together.  So it
lies within the limit where no alias is followed. -/
theorem depth_le_of_load {l : Loader} {text : String} {doc : LoadedDocument} {path : List Segment}
    {x : Datum} (hl : l.Ready) (hload : (l.load text).1 = .ok doc)
    (hx : doc.data.find? path = some x) :
    path = [] ∨ ∃ d a, (l.readTree text.toList).1 = .ok (some d) ∧
      (d.height : Int) ≤ l.settings.maxDepth ∧
      (Graph.empty.read l.reader.version text.toList).result = .ok a ∧
      (∃ followed e, a.graph.Way (l.reader.mode true text.toList) (.root d) path followed e ∧
        a.graph.Shows (l.reader.mode true text.toList) x.store e.ref x.value) ∧
      ∀ followed e, a.graph.Way (l.reader.mode true text.toList) (.root d) path followed e →
        path.length ≤ d.height + Spot.heights followed ∧
        (∀ r ∈ followed, r = .root d ∨ r.node.height < d.height) ∧
        ((∀ n ∈ d.nodes, n.isAlias = false) → followed = []) := by
  obtain ⟨root, data, htree, hrun, hread, -, hdata⟩ := read_of_load hload
  have hempty := hl.builder
  rw [hl.version] at hrun
  obtain ⟨a, ha, hnode⟩ := ValueReader.exists_node hempty hread
  rw [hdata] at hx
  cases root with
  | none =>
      have hnull := ValueReader.read_rootless hempty hread ha
        (Graph.root_of_read hrun ha)
      refine .inl (Datum.eq_nil_of_find? ?_ hx)
      rw [Datum.plain, hnull]
      trivial
  | some d =>
      obtain ⟨hroot, hna, hof⟩ := Graph.of_read_true hrun ha
      obtain ⟨n, hleads, hshows, -⟩ := hnode 0 hroot path x hx
      have href : Spot.ref (.root d) = 0 := Spot.ref_of_not_isAlias hna
      -- the path through the value is a way through the tree, along children and aliases
      obtain ⟨followed, e, hway, rfl⟩ := hof.exists_way hleads (.refl _) href
      have hlimit := Tree.height_le hrun
      refine .inr ⟨d, a, htree, by omega, ha, ⟨followed, e, hway, hshows⟩,
        fun followed e hway => ?_⟩
      have hlength := hway.length_le
      obtain ⟨-, hfollowed⟩ := hway.inside (.refl _)
      refine ⟨Nat.le_trans (Nat.le_add_right _ _) hlength,
        fun r hr => (hfollowed r hr).eq_or_height_lt, fun hplain => ?_⟩
      refine List.eq_nil_iff_forall_not_mem.mpr fun r hr => ?_
      obtain ⟨n, hn, halias⟩ := (hfollowed r hr).exists_alias
      rw [hplain n hn] at halias
      cases halias

theorem depth_le_of_load_sharedItem :
    let l := start { maxDepth := 2 }
    let text := "- &a [1]\n- [*a]\n"
    let path : List Segment := [.index 1, .index 0, .index 0]
    ∃ doc x, (l.load text).1 = .ok doc ∧ doc.data.find? path = some x ∧
      ∃ d a, (l.readTree text.toList).1 = .ok (some d) ∧ (d.height : Int) ≤ l.settings.maxDepth ∧
        (Graph.empty.read l.reader.version text.toList).result = .ok a ∧
        (∃ followed e, a.graph.Way (l.reader.mode true text.toList) (.root d) path followed e ∧
          a.graph.Shows (l.reader.mode true text.toList) x.store e.ref x.value) ∧
        ∀ followed e, a.graph.Way (l.reader.mode true text.toList) (.root d) path followed e →
          path.length ≤ d.height + Spot.heights followed ∧
          (∀ r ∈ followed, r = .root d ∨ r.node.height < d.height) ∧
          ((∀ n ∈ d.nodes, n.isAlias = false) → followed = []) := by
  intro l text path
  have hdoc : (l.load text).1.toOption.any (fun doc => (doc.data.find? path).isSome) = true := by
    decide +kernel
  obtain ⟨doc, hload, hpath⟩ := Except.exists_ok_of_any hdoc
  obtain ⟨x, hx⟩ := Option.isSome_iff_exists.mp hpath
  obtain ⟨d, a, h⟩ := (depth_le_of_load (ready_start _) hload hx).resolve_left (by simp [path])
  exact ⟨doc, x, hload, hx, d, a, h⟩

/-- The limit does not hold for the value: behind an alias a value may lie deeper, though no container
is entered from inside itself. -/
theorem exists_deeper_of_load :
    let l := start { maxDepth := 2 }
    let path : List Segment := [.index 1, .index 0, .index 0]
    ∃ doc x, (l.load "- &a [1]\n- [*a]\n").1 = .ok doc ∧ doc.data.find? path = some x ∧
      (doc.data.entered path).Nodup ∧ l.settings.maxDepth < path.length := by
  intro l path
  have hdoc : (l.load "- &a [1]\n- [*a]\n").1.toOption.any (fun doc =>
      (doc.data.find? path).isSome && decide (doc.data.entered path).Nodup) = true := by
    decide +kernel
  obtain ⟨doc, hload, hdoc⟩ := Except.exists_ok_of_any hdoc
  obtain ⟨hpath, hnodup⟩ := Bool.and_eq_true_iff.mp hdoc
  obtain ⟨x, hx⟩ := Option.isSome_iff_exists.mp hpath
  exact ⟨doc, x, hload, hx, of_decide_eq_true hnodup, by decide⟩

end Loader

end YamlAudit
