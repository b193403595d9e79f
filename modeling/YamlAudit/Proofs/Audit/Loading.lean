import YamlAudit.Proofs.Audit.Stages
import YamlAudit.Proofs.Yaml.Origin

/-!
# Audit — the two readings of a text

A text is read twice, and both readings see the same parts as long as they are read as the same
version; a loader that has rejected nothing so far is `Ready` for this.

* `Node.Mirrored`: the value of a document has what its tree has, spot by spot.
* `ValueReader.read_mirrored`: the value of a text mirrors its tree if there is a plan for it.
* `Loader.load_eq_ok`: what a loaded document is made of.
* `Loader.mirrored_of_load`: a loaded document mirrors its tree.

The tree is where positions come from and the value is what they are positions of, so all that
relates the two goes through the mirror.  It is told of the value as it was built, before its keys
become texts.  A loader that goes on in the version of another text, or has been left with a value
half built, may read the two differently.
-/

namespace YamlAudit

/-- The values of the spots of a document have what the spots have.  `literal` says that keys are
kept as they are written, `standard` that nothing has a tag that makes another value of a mapping. -/
structure Node.Mirrored (d : Node) (literal standard : Prop) (s : Store)
    (val : Spot → Option Value) : Prop where
  home : ∀ o, Spot.Inside (.root d) o → val o.home = val o
  bound : ∀ o c, val o = some (.ref c) → c < s.containers.size
  own : ∀ a b c, Spot.Inside (.root d) a → Spot.Inside (.root d) b → val a = some (.ref c) →
    val b = some (.ref c) → a.home = b.home
  scalar : ∀ o v span anchor t, Spot.Inside (.root d) o → val o = some v →
    o.node = .scalar span anchor t → v.IsAtom
  sequence : ∀ o v span anchor items, Spot.Inside (.root d) o → val o = some v →
    o.node = .sequence span anchor items → ∃ c vs, v = .ref c ∧ s.get c = .list vs ∧
      List.Forall₂ (fun i w => val i = some w) o.children vs
  mapping : ∀ o v span anchor pairs, Spot.Inside (.root d) o → val o = some v →
    o.node = .mapping span anchor pairs →
      (∃ c es, v = .ref c ∧ s.get c = .mapping es ∧ List.Forall₂ (fun p e => val p.2 = some e.2 ∧
        (literal → ∀ span anchor t, p.1.node = .scalar span anchor t → e.1 = .text t)) o.pairs es ∧
        DistinctKeys es) ∨
      ¬ standard ∧ (v.IsAtom ∨ ∃ c vs, v = .ref c ∧ s.get c = .set vs)

namespace Yaml

open Build

/-- Values that have the shape of their nodes mirror the document that is drawn. -/
theorem Graph.Of.mirrored {T : TagRule} {g : Graph} {d : Node}
    {literal : Nat → Prop} {b : Builder} (h : g.Of T d)
    (hshaped : ∀ n v, b.value n = some v → (g.plan d literal).Shaped b n v)
    (hbound : ∀ n c, b.value n = some (.ref c) → c < b.store.containers.size)
    (hown : ∀ n m c, b.value n = some (.ref c) → b.value m = some (.ref c) → n = m)
    {kept standard : Prop}
    (hkept : kept → ∀ o, Spot.Inside (.root d) o → ∀ p ∈ o.pairs, literal p.1.ref)
    (hstandard : standard → ∀ anchor tag, T anchor .mapping tag → tag = mappingTag) :
    d.Mirrored kept standard b.store fun o => b.value o.ref where
  home o ho := by
    rw [Spot.ref, show o.home.referent.getD o.home = o.home.home from rfl,
      Spot.home_of_not_isAlias (h.isAlias_home ho)]
    rfl
  bound o c hv := hbound _ c hv
  own a a' c ha ha' hv hv' := h.home_eq ha ha' (hown _ _ c hv hv')
  scalar o v span anchor t ho hv hn := by
    have hna : o.node.isAlias = false := by rw [hn]; rfl
    have hc := (h.draws.has o ho hna).draws.content_scalar hn
    -- the plan has a scalar there, so the value is an atom and no container
    rcases hshaped _ v hv with hs | ⟨c, rfl, hs⟩
    · exact hs.1
    · rw [Spot.ref_of_not_isAlias hna] at hs
      unfold Plan.Holds at hs
      rw [show (g.plan d literal).content o.number = _ from hc] at hs
      exact hs.elim
  sequence o v span anchor items ho hv hn := by
    have hna : o.node.isAlias = false := by rw [hn]; rfl
    have hc := (h.draws.has o ho hna).draws.content_sequence hn
    have hv := hshaped _ v hv
    rw [Spot.ref_of_not_isAlias hna] at hv
    -- the value is a container, whose content the plan tells
    rcases hv with ⟨-, hk, -⟩ | ⟨c, rfl, hs⟩
    · rw [show (g.plan d literal).content o.number = _ from hc] at hk
      exact absurd rfl hk
    · unfold Plan.Holds at hs
      rw [show (g.plan d literal).content o.number = _ from hc] at hs
      obtain ⟨vs, hget, hvs⟩ := hs
      exact ⟨c, vs, rfl, hget, List.forall₂_map_left_iff.mp hvs⟩
  mapping o v span anchor pairs ho hv hn := by
    have hna : o.node.isAlias = false := by rw [hn]; rfl
    have hhas := h.draws.has o ho hna
    have hc := hhas.draws.content_mapping hn
    have htag : standard → (g.plan d literal).tag o.number = mappingTag := by
      intro hstd
      have htagged := hhas.tagged
      rw [hc] at htagged
      exact hstandard hstd _ _ htagged
    have hv := hshaped _ v hv
    rw [Spot.ref_of_not_isAlias hna] at hv
    -- under a tag of its own a mapping may be read as an atom, or as a container of another kind
    rcases hv with ⟨hatom, -, hk⟩ | ⟨c, rfl, hs⟩
    · rw [show (g.plan d literal).content o.number = _ from hc] at hk
      exact .inr ⟨fun hstd => hk rfl (htag hstd), .inl hatom⟩
    · unfold Plan.Holds at hs
      rw [show (g.plan d literal).content o.number = _ from hc] at hs
      rcases hs with ⟨es, hget, hes, hdistinct⟩ | ⟨hne, vs, hget⟩
      · refine .inl ⟨c, es, rfl, hget, ?_, hdistinct⟩
        obtain ⟨hlen, hentry⟩ := List.forall₂_iff_zip.mp (List.forall₂_map_left_iff.mp hes)
        refine List.forall₂_iff_zip.mpr ⟨hlen, fun {p e} hpe => ?_⟩
        obtain ⟨hvalue, hkey⟩ := hentry hpe
        have hp := (List.of_mem_zip hpe).1
        refine ⟨hvalue, fun hk span anchor t ht => hkey (hkept hk o ho p hp) t ?_⟩
        have hin := ho.tail (Spot.pairs_mem_children hp).1
        have hna : p.1.node.isAlias = false := by rw [ht]; rfl
        rw [Spot.ref_of_not_isAlias hna]
        exact (h.draws.has _ hin hna).draws.content_scalar ht
      · exact .inr ⟨fun hstd => hne (htag hstd), .inr ⟨c, vs, rfl, hget⟩⟩

/-- A graph is put together from the parts of a text that are followed by no fault. -/
theorem Graph.run_of_read {g : Graph} {version : Version} {source : List Char} {a : Assembly}
    (h : (g.read version source).result = .ok a) :
    (Assembly.start g).run (Markup.run version source).parts = .ok a := by
  unfold Graph.read at h
  dsimp only at h
  split at h
  · cases h
  · next hrun =>
    split at h
    · cases h
    · cases h
      exact hrun

/-- The graph of a text that has a tree draws the tree, and the root comes first. -/
theorem Graph.of_read {T : TagRule} {limit : Int} {version : Version} {source : List Char}
    {d : Node} {a : Assembly} (htree : (Tree.read limit version source).tree = .ok (some d))
    (htags : ∀ m ∈ (Markup.run version source).parts, m.Tagged T)
    (h : (Graph.empty.read version source).result = .ok a) :
    a.root = some 0 ∧ d.isAlias = false ∧ a.graph.Of T d := by
  obtain ⟨-, hspells⟩ := MarkupRun.spelled htree
  obtain ⟨hroot, hna, hdraws, hsize⟩ := hspells.draws htags (Graph.run_of_read h)
  obtain ⟨m, body, tail, -, -, hbody, -⟩ := hspells
  exact ⟨hroot, hna, hdraws, hsize, hbody.written⟩

/-- So it does whatever the tags are. -/
theorem Graph.of_read_true {limit : Int} {version : Version} {source : List Char} {d : Node}
    {a : Assembly} (htree : (Tree.read limit version source).tree = .ok (some d))
    (h : (Graph.empty.read version source).result = .ok a) :
    a.root = some 0 ∧ d.isAlias = false ∧ a.graph.Of (fun _ _ _ => True) d := by
  refine Graph.of_read htree (fun m _ => ?_) h
  unfold Markup.Tagged
  split <;> trivial

/-- The value of a text mirrors its tree if there is a plan for it. -/
theorem ValueReader.read_mirrored {T : TagRule} {r r' : ValueReader}
    {source : List Char} {limit : Int} {d : Node} {data : Datum} (kept standard : Prop)
    (hempty : r.builder = .empty)
    (htree : (Tree.read limit r.version source).tree = .ok (some d))
    (htags : ∀ m ∈ (Markup.run r.version source).parts, m.Tagged T)
    (hread : r.read true source = (.ok data, r'))
    (hplan : ∀ g : Graph, g.Of T d → ∃ literal, (g.plan d literal).Sound ∧
      (literal (Spot.ref (.root d)) → (g.get (Spot.ref (.root d))).tag = ScalarType.text.tag) ∧
      (kept → ∀ o, Spot.Inside (.root d) o → ∀ p ∈ o.pairs, literal p.1.ref))
    (hstandard : standard → ∀ anchor tag, T anchor .mapping tag → tag = mappingTag) :
    d.Settled ∧ (∀ n ∈ d.nodes, n.IsWritten) ∧
      ∃ val, d.Mirrored kept standard data.store val ∧ val (.root d) = some data.value := by
  obtain ⟨a, ha, -, hbuilt⟩ := read_eq_ok hempty (congrArg Prod.fst hread)
  obtain ⟨hroot, hna, hof⟩ := Graph.of_read htree htags ha
  obtain ⟨literal, hsound, hlit, hkept⟩ := hplan a.graph hof
  have href : Spot.ref (.root d) = 0 := Spot.ref_of_not_isAlias hna
  rw [href] at hlit
  have hbound := (hof.draws.has _ (.refl _) hna).bound
  obtain ⟨b, hbuild, hstore⟩ := hbuilt 0 hroot
  obtain ⟨hv, hshaped, hbelow, hown⟩ := document_gives hsound rfl hbound hlit _ b hbuild
  rw [hstore]
  refine ⟨hof.settled, hof.written, _, hof.mirrored hshaped hbelow hown hkept hstandard, ?_⟩
  rw [href]
  exact hv

/-- A tree is read to the end of its text. -/
theorem TreeRun.version_of_ok {limit : Int} {version : Version} {source : List Char}
    {root : Option Node} (h : (Tree.read limit version source).tree = .ok root) :
    (Tree.read limit version source).version = (Markup.run version source).version := by
  unfold Tree.read MarkupRun.tree at h ⊢
  dsimp only at h ⊢
  split at h
  · cases h
  · next q hq =>
    split at h
    · cases h
    · rfl

theorem Graph.version_of_ok {g : Graph} {version : Version} {source : List Char} {a : Assembly}
    (h : (g.read version source).result = .ok a) :
    (g.read version source).version = (Markup.run version source).version := by
  unfold Graph.read at h ⊢
  dsimp only at h ⊢
  split at h
  · cases h
  · split at h
    · cases h
    · rfl

/-- So is a value, and the reader starts afresh. -/
theorem ValueReader.read_ok {r r' : ValueReader} {literalKeys : Bool} {source : List Char}
    {data : Datum} (h : r.read literalKeys source = (.ok data, r')) :
    r'.version = (Markup.run r.version source).version ∧
      (r.builder = .empty → r'.builder = .empty) := by
  simp only [ValueReader.read] at h
  split at h
  · cases h
  split at h
  · cases h
  · next a ha =>
    have hversion := Graph.version_of_ok ha
    split at h
    · cases h
      exact ⟨hversion, id⟩
    · split at h
      · cases h
        exact ⟨hversion, fun _ => rfl⟩
      · cases h

end Yaml

namespace Loader

/-- A loader that has rejected nothing so far. -/
structure Ready (l : Loader) : Prop where
  version : l.treeVersion = l.reader.version
  builder : l.reader.builder = .empty

theorem ready_start (settings : Settings) : (start settings).Ready := ⟨rfl, rfl⟩

/-- What the tree of a text is read from. -/
theorem readTree_eq_ok {l l' : Loader} {source : List Char} {root : Option Node}
    (h : l.readTree source = (.ok root, l')) :
    (Yaml.Tree.read (min l.settings.maxDepth l.calls) l.treeVersion source).tree = .ok root ∧
      l' = { l with treeVersion :=
        (Yaml.Tree.read (min l.settings.maxDepth l.calls) l.treeVersion source).version } := by
  simp only [readTree] at h
  split at h
  · next root' hroot =>
    cases h
    exact ⟨hroot, rfl⟩
  · split at h <;> cases h
  · cases h

/-- What a loaded document is made of. -/
theorem load_eq_ok {l : Loader} {text : String} {doc : LoadedDocument}
    (h : (l.load text).1 = .ok doc) : ∃ root l' data r, l.readTree text.toList = (.ok root, l') ∧
      l'.reader.read true text.toList = (.ok data, r) ∧
      (l.load text).2 = { l' with reader := r } ∧
      data.fits l.settings.maxNodeCount = true ∧ doc.data = data.plain ∧
      ∀ d, root = some d → RangeMap.index (.ofText text) d = .ok doc.rangeMap := by
  unfold load at h ⊢
  dsimp only at h ⊢
  split at h
  · cases h
  · next hsize =>
    rw [if_neg hsize]
    split at h
    · cases h
    · next root l' hroot =>
      have hsettings : l'.settings = l.settings := by
        rw [(readTree_eq_ok hroot).2]
      split at h
      · cases h
      · next data r hread =>
        simp only [hroot]
        obtain ⟨hfits, hcopy, hmap⟩ := finish_eq_ok h
        refine ⟨root, l', data, r, rfl, hread, rfl, hsettings ▸ hfits, (copyOf_eq_ok hcopy).1, ?_⟩
        rintro d rfl
        exact (mapOf_eq_ok hmap).2

/-- A loaded document has a tree, and its data is the value of the text, copied. -/
theorem read_of_load {l : Loader} {text : String} {doc : LoadedDocument}
    (h : (l.load text).1 = .ok doc) : ∃ root data, (l.readTree text.toList).1 = .ok root ∧
      (Yaml.Tree.read (min l.settings.maxDepth l.calls) l.treeVersion text.toList).tree =
        .ok root ∧
      (l.reader.read true text.toList).1 = .ok data ∧ data.fits l.settings.maxNodeCount = true ∧
      doc.data = data.plain := by
  obtain ⟨root, l', data, r, htree, hread, -, hfits, hdata, -⟩ := load_eq_ok h
  obtain ⟨hrun, rfl⟩ := readTree_eq_ok htree
  exact ⟨root, data, congrArg Prod.fst htree, hrun, congrArg Prod.fst hread, hfits, hdata⟩

/-- A text is loaded, with its map and its tree, if both pass a check; one evaluation does for all
that is asked of them. -/
theorem exists_of_any_load {l : Loader} {text : String} {p : LoadedDocument → RangeMap → Bool}
    {q : Node → Bool}
    (h : ((l.load text).1.toOption.any (fun doc => doc.rangeMap.any (p doc)) &&
      (l.readTree text.toList).1.toOption.any fun root => root.any q) = true) :
    ∃ doc m d, (l.load text).1 = .ok doc ∧ doc.rangeMap = some m ∧
      (l.readTree text.toList).1 = .ok (some d) ∧ p doc m = true ∧ q d = true := by
  obtain ⟨hdoc, htree⟩ := Bool.and_eq_true_iff.mp h
  obtain ⟨doc, hload, hdoc⟩ := Except.exists_ok_of_any hdoc
  obtain ⟨m, hmap, hp⟩ := Option.any_eq_true _ _ |>.mp hdoc
  obtain ⟨root, htree, hroot⟩ := Except.exists_ok_of_any htree
  obtain ⟨d, rfl, hq⟩ := Option.any_eq_true _ _ |>.mp hroot
  exact ⟨doc, m, d, hload, hmap, htree, hp, hq⟩

/-- The reader of a loader that is ready begins as the same version as the tree was read in. -/
theorem Ready.reader {l l' : Loader} {source : List Char} {root : Option Node} (hl : l.Ready)
    (h : l.readTree source = (.ok root, l')) :
    l'.reader.version = l.treeVersion ∧ l'.reader.builder = .empty := by
  obtain ⟨-, rfl⟩ := readTree_eq_ok h
  exact ⟨hl.version.symm, hl.builder⟩

/-- A loader stays ready as long as it accepts what it is given. -/
theorem Ready.load {l : Loader} {text : String} {doc : LoadedDocument} (hl : l.Ready)
    (h : (l.load text).1 = .ok doc) : (l.load text).2.Ready := by
  obtain ⟨root, l', data, r, htree, hread, hnext, -⟩ := load_eq_ok h
  obtain ⟨hversion, hbuilder⟩ := hl.reader htree
  obtain ⟨hok, rfl⟩ := readTree_eq_ok htree
  have htreeVersion := Yaml.TreeRun.version_of_ok hok
  obtain ⟨hreader, hempty⟩ := Yaml.ValueReader.read_ok hread
  rw [hnext]
  constructor
  · simp only [htreeVersion, hreader]
    rw [hl.version]
  · exact hempty hbuilder

/-- A document that has a root mirrors its tree if there is a plan for it, and the tree is indexed. -/
theorem mirrored_of_load {T : Yaml.TagRule} {l : Loader} {text : String} {doc : LoadedDocument}
    {d : Node} (kept standard : Prop) (hl : l.Ready) (hload : (l.load text).1 = .ok doc)
    (htree : (l.readTree text.toList).1 = .ok (some d))
    (htags : ∀ part ∈ (Yaml.Markup.run l.treeVersion text.toList).parts, part.Tagged T)
    (hplan : ∀ g : Yaml.Graph, g.Of T d → ∃ literal, (g.plan d literal).Sound ∧
      (literal (Spot.ref (.root d)) →
        (g.get (Spot.ref (.root d))).tag = Yaml.ScalarType.text.tag) ∧
      (kept → ∀ o, Spot.Inside (.root d) o → ∀ p ∈ o.pairs, literal p.1.ref))
    (hstandard : standard → ∀ anchor tag, T anchor .mapping tag → tag = Yaml.mappingTag) :
    RangeMap.index (.ofText text) d = .ok doc.rangeMap ∧ d.Settled ∧
      (∀ n ∈ d.nodes, n.IsWritten) ∧ ∃ (data : Datum) (val : Spot → Option Value),
        data.fits l.settings.maxNodeCount = true ∧
        doc.data = data.plain ∧ d.Mirrored kept standard data.store val ∧
        val (.root d) = some data.value := by
  obtain ⟨root, l', data, r, hroot, hread, -, hfits, hdata, hindex⟩ := load_eq_ok hload
  obtain rfl : root = some d := by
    rw [hroot] at htree
    exact Except.ok.inj htree
  obtain ⟨hversion, hempty⟩ := hl.reader hroot
  have hrun := (readTree_eq_ok hroot).1
  rw [← hversion] at hrun htags
  obtain ⟨hsettled, hw, val, hm, hval⟩ := Yaml.ValueReader.read_mirrored kept standard hempty hrun
    htags hread hplan hstandard
  exact ⟨hindex d rfl, hsettled, hw, data, val, hfits, hdata, hm, hval⟩

end Loader

end YamlAudit
