import YamlAudit.Proofs.Yaml.Rules

/-!
# Yaml — building keeps the plan

Every part of building a value from the graph of a plan keeps `Plan.Kept` and lets the builder grow
(`Plan.Advances`), one law a part, in the order in which the parts call one another.  A node is met
again only after it has been made, because ranks fall from a node to the nodes in it.

Where a plan is kept, every value that is there stands for its node, and so does a container that is
still to be filled.  In a document that is not open a node may lie in what it stands for, and then
there is no plan; what can be said of values there is another development.
-/

namespace YamlAudit.Yaml

open Build

namespace Plan

/-- A part of building has been done, with `todo` still to be filled. -/
structure Advances (p : Plan) (todo : List Filling) (b b' : Builder) : Prop where
  kept : p.Kept todo b'
  grows : b.Grows b'
  left : b'.left ≤ b.left

variable {p : Plan} {b b' b'' : Builder} {todo : List Filling}

theorem Advances.refl (h : p.Kept todo b) : p.Advances todo b b := ⟨h, .refl b, Nat.le_refl _⟩

theorem Advances.trans (h : p.Advances todo b b') (h' : p.Advances todo b' b'') :
    p.Advances todo b b'' :=
  ⟨h'.kept, h.grows.trans h'.grows, Nat.le_trans h'.left h.left⟩

theorem Advances.retag (h : p.Kept todo b) {g : Graph} (hg : b.graph.Retags g) :
    p.Advances todo b { b with graph := g } :=
  ⟨h.retag hg, ⟨hg, fun _ _ h => h, Nat.le_refl _, fun _ _ => rfl,
    fun _ _ h h' => absurd (h.symm.trans h') (by simp), rfl⟩, Nat.le_refl _⟩

end Plan

/-! ### Scalars -/

variable {b : Builder}

theorem readBool_isTyped {value : String} {v : Value} (h : readBool value = .ok v) : v.IsTyped := by
  unfold readBool at h
  dsimp only at h
  split at h
  · cases h
    trivial
  · split at h
    · cases h
      trivial
    · cases h

theorem readInt_isTyped {old : Bool} {value : String} {v : Value} (h : readInt old value = .ok v) :
    v.IsTyped := by
  obtain ⟨_, -, h⟩ := Except.bind_eq_ok.mp h
  obtain ⟨n, -, h⟩ := Except.bind_eq_ok.mp h
  cases h
  trivial

theorem ofFloat_isTyped (mark : NanMark) (x : Float) : (Value.ofFloat mark x).IsTyped := by
  unfold Value.ofFloat
  split <;> trivial

theorem readFloat_isTyped {old : Bool} {mark : NanMark} {value : String} {v : Value}
    (h : readFloat old mark value = .ok v) : v.IsTyped := by
  obtain ⟨_, -, h⟩ := Except.bind_eq_ok.mp h
  dsimp only at h
  split at h
  · cases h
    trivial
  · obtain ⟨x, -, h⟩ := Except.bind_eq_ok.mp h
    cases h
    exact ofFloat_isTyped _ _

theorem readBinary_isScalar {place : Mark} {value : String} {v : Value}
    (h : readBinary place value = .ok v) : v.IsScalar := by
  unfold readBinary at h
  dsimp only at h
  split at h
  · cases h
  · split at h
    · cases h
      trivial
    · cases h

theorem DateText.value_isTyped {t : DateText} {v : Value} (h : t.value = .ok v) : v.IsTyped := by
  unfold DateText.value at h
  split at h
  · obtain ⟨d, -, h⟩ := Except.bind_eq_ok.mp h
    cases h
    trivial
  · next time _ =>
    extract_lets fraction rest at h
    have hrest : rest () = .ok v → v.IsTyped := by
      intro hu
      obtain ⟨d, -, hu⟩ := Except.bind_eq_ok.mp hu
      split at hu
      · obtain ⟨m, -, hu⟩ := Except.bind_eq_ok.mp hu
        cases hu
        trivial
      · obtain ⟨m, -, hu⟩ := Except.bind_eq_ok.mp hu
        obtain ⟨m', -, hu⟩ := Except.bind_eq_ok.mp hu
        cases hu
        trivial
    split at h
    · split at h
      · cases h
      · exact hrest h
    · exact hrest h

theorem readTimestamp_isTyped {place : Mark} {value : String} {v : Value}
    (h : readTimestamp place value = .ok v) : v.IsTyped := by
  unfold readTimestamp at h
  split at h
  · cases h
  · next t _ =>
    cases ht : t.value with
    | error f => rw [ht] at h; cases h
    | ok w =>
        rw [ht] at h
        cases h
        exact DateText.value_isTyped ht

/-- What is read from a text is neither a container nor a tuple. -/
theorem Build.Recipe.isScalar_of_read? {r : Recipe} {old : Bool} {n : Nat} {place : Mark} {t : String}
    {v : Value} (h : r.read? old n place t = some v) : v.IsScalar := by
  cases r with
  | null | text =>
      cases h
      trivial
  | bool => exact (readBool_isTyped (Except.toOption_eq_some.mp h)).isScalar
  | int => exact (readInt_isTyped (Except.toOption_eq_some.mp h)).isScalar
  | float => exact (readFloat_isTyped (Except.toOption_eq_some.mp h)).isScalar
  | binary => exact readBinary_isScalar (Except.toOption_eq_some.mp h)
  | timestamp => exact (readTimestamp_isTyped (Except.toOption_eq_some.mp h)).isScalar
  | collection filler => cases h

/-! ### Keys -/

/-- Of nodes some may be made texts. -/
def Retagged (b b' : Builder) : Prop := ∃ g, b.graph.Retags g ∧ b' = { b with graph := g }

theorem Retagged.refl (b : Builder) : Retagged b b := ⟨b.graph, .refl _, rfl⟩

theorem Retagged.trans {b' b'' : Builder} (h : Retagged b b') (h' : Retagged b' b'') :
    Retagged b b'' := by
  obtain ⟨g, hg, rfl⟩ := h
  obtain ⟨g', hg', rfl⟩ := h'
  exact ⟨g', hg.trans hg', rfl⟩

theorem Retagged.graph {b' : Builder} (h : Retagged b b') : b.graph.Retags b'.graph := by
  obtain ⟨g, hg, rfl⟩ := h
  exact hg

theorem Retagged.setTag {n : Nat} (h : (b.graph.get n).content.kind = .scalar) :
    Retagged b { b with graph := b.graph.setTag n ScalarType.text.tag } :=
  ⟨_, .setTag h, rfl⟩

theorem Plan.Kept.retagged {p : Plan} {todo : List Filling} {b' : Builder} (h : p.Kept todo b)
    (hr : Retagged b b') : p.Advances todo b b' := by
  obtain ⟨g, hg, rfl⟩ := hr
  exact .retag h hg

/-- The pairs of a node, if it is a mapping. -/
theorem pairsOf_gives (n : Nat) {Q : List (Nat × Nat) → Builder → Prop}
    (h : ∀ pairs, pairs.map Prod.fst = (b.graph.get n).content.keys → Q pairs b) :
    Gives (pairsOf n) b Q := by
  refine .bind (.node ?_)
  split
  · next pairs merged hc =>
    refine .pure (h pairs ?_)
    rw [hc]
    rfl
  · next hc =>
    refine .pure (h [] ?_)
    cases hk : (b.graph.get n).content with
    | mapping pairs merged => exact absurd hk (hc pairs merged)
    | _ => rfl

/-- No key of a node asks for its mapping to be merged, and only scalars are called values. -/
def Unmerged (g : Graph) (n : Nat) : Prop :=
  ∀ k ∈ (g.get n).content.keys, (g.get k).tag ≠ ScalarType.merge.tag ∧
    ((g.get k).tag = ScalarType.value.tag → (g.get k).content.kind = .scalar)

theorem Unmerged.retags {g g' : Graph} {n : Nat} (h : Unmerged g n) (hg : g.Retags g') :
    Unmerged g' n := by
  intro k hk
  rw [hg.content] at hk ⊢
  obtain ⟨h₁, h₂⟩ := h k hk
  rcases hg.tag k with ht | ⟨hk, ht⟩
  · rw [ht]
    exact ⟨h₁, h₂⟩
  · rw [ht]
    exact ⟨by decide, fun _ => hk⟩

/-- Where nothing is to be merged, looking for merge keys at most makes texts of keys. -/
theorem takeMerges_gives (flatten : Nat → Build Unit) (n fuel index : Nat)
    (h : Unmerged b.graph n) : Gives (takeMerges flatten n fuel index []) b fun merged b' =>
      merged = [] ∧ Retagged b b' := by
  induction fuel generalizing index b with
  | zero => exact .pure ⟨rfl, .refl b⟩
  | succ fuel ih =>
      refine .bind (pairsOf_gives n fun pairs hpairs => ?_)
      split
      · exact .pure ⟨rfl, .refl b⟩
      · next key value hq =>
        obtain ⟨hmerge, hvalue⟩ := h key
          (hpairs ▸ List.mem_map_of_mem (f := Prod.fst) (List.mem_of_getElem? hq))
        refine .bind (.node ?_)
        rw [if_neg (by simpa using hmerge)]
        refine .ite (fun ht => .bind (.modify ?_)) fun _ => ih (index + 1) h
        have hr := Retagged.setTag (hvalue (by simpa using ht))
        exact (ih (index + 1) (h.retags hr.graph)).imp fun _ _ hm => ⟨hm.1, hr.trans hm.2⟩

theorem flatten_gives (calls n : Nat) (h : Unmerged b.graph n) :
    Gives (flatten calls n) b fun _ b' => Retagged b b' := by
  cases calls with
  | zero => exact .throw
  | succ calls =>
      refine .bind (pairsOf_gives n fun pairs _ => .bind (.get (.bind ?_)))
      refine (takeMerges_gives _ n _ 0 h).imp fun merged b' hm => ?_
      obtain ⟨rfl, hr⟩ := hm
      exact .pure hr

/-- The keys of a mapping that are scalars become texts. -/
theorem keepKeys_gives (n : Nat)
    (hbound : ∀ k ∈ (b.graph.get n).content.keys, k < b.graph.nodes.size) :
    Gives (keepKeys n) b fun _ b' => Retagged b b' ∧ ∀ k ∈ (b.graph.get n).content.keys,
      (b.graph.get k).content.kind = .scalar → (b'.graph.get k).tag = ScalarType.text.tag := by
  refine .bind (pairsOf_gives n fun pairs hpairs => ?_)
  rw [← hpairs] at hbound ⊢
  -- the keys that are no longer in the list have had their turn
  let I (rest : List (Nat × Nat)) (s : Builder) : Prop := Retagged b s ∧ rest ⊆ pairs ∧
    ∀ k ∈ pairs.map Prod.fst, (b.graph.get k).content.kind = .scalar →
      k ∈ rest.map Prod.fst ∨ (s.graph.get k).tag = ScalarType.text.tag
  refine .bind ((Gives.forIn I ⟨.refl b, List.Subset.refl _, fun k hk _ => .inl hk⟩ ?_).imp
    fun _ s hI => .pure ⟨hI.1, fun k hk hscalar => (hI.2.2 k hk hscalar).resolve_left (by simp)⟩)
  · rintro ⟨key, value⟩ rest s ⟨hr, hsub, hkeys⟩
    obtain ⟨hkey, hsub⟩ := List.cons_subset.mp hsub
    have hnext : ∀ s' : Builder, s.graph.Retags s'.graph →
        ((b.graph.get key).content.kind = .scalar →
          (s'.graph.get key).tag = ScalarType.text.tag) →
        ∀ k ∈ pairs.map Prod.fst, (b.graph.get k).content.kind = .scalar →
          k ∈ rest.map Prod.fst ∨ (s'.graph.get k).tag = ScalarType.text.tag := by
      intro s' hs' hkey k hk hscalar
      rcases hkeys k hk hscalar with h | h
      · rcases List.mem_cons.mp h with rfl | h
        · exact .inr (hkey hscalar)
        · exact .inl h
      · exact .inr (hs'.text h)
    refine .bind (.node ?_)
    split
    · next value hc =>
      have hset := Retagged.setTag (b := s) (n := key) (by rw [hc]; rfl)
      refine .bind (.modify (.pure ⟨rfl, hr.trans hset, hsub, hnext _ hset.graph fun _ => ?_⟩))
      have hlt : key < s.graph.nodes.size := by
        rw [hr.graph.size]
        exact hbound key (List.mem_map_of_mem (f := Prod.fst) hkey)
      rw [Graph.get_setTag, if_pos ⟨rfl, hlt⟩]
    · next hc =>
      refine .pure ⟨rfl, hr, hsub, hnext s (.refl _) fun hscalar => ?_⟩
      rw [← hr.graph.content] at hscalar
      cases hk : (s.graph.get key).content with
      | scalar value => exact absurd hk (hc value)
      | sequence items => rw [hk] at hscalar; cases hscalar
      | mapping pairs merged => rw [hk] at hscalar; cases hscalar

/-! ### Collections -/

/-- What making a node that may be made now, with some nodes begun, does. -/
def Plan.Makes (p : Plan) (make : Maker) (busy : List Nat) : Prop :=
  ∀ (todo : List Filling) (b : Builder) (n : Nat) (eager : Bool), p.Kept todo b → b.busy = busy →
    n < p.size → (∀ m ∈ busy, p.rank n < p.rank m) →
    (p.literal n → (b.graph.get n).tag = ScalarType.text.tag) →
    Gives (make n eager) b fun v b' => p.Advances todo b b' ∧ b'.value n = some v

section Collections

variable {p : Plan} {make : Maker} {busy : List Nat} {todo : List Filling} {whole : GraphNode}

theorem makeItems_gives (hmake : p.Makes make busy) (items : List Nat)
    (hitems : ∀ i ∈ items, i < p.size ∧ (∀ m ∈ busy, p.rank i < p.rank m) ∧
      (p.literal i → p.tag i = ScalarType.text.tag))
    (h : p.Kept todo b) (hb : b.busy = busy) : Gives (makeItems make items) b fun vs b' =>
      p.Advances todo b b' ∧ List.Forall₂ (fun i v => b'.value i = some v) items vs := by
  induction items generalizing b with
  | nil => exact .pure ⟨.refl h, .nil⟩
  | cons item rest ih =>
      obtain ⟨hlt, hrank, hlit⟩ := hitems item (by simp)
      refine .bind ((hmake todo b item false h hb hlt hrank fun hl => h.graph.text (hlit hl)).imp
        fun v b₁ h₁ => ?_)
      obtain ⟨hadv, hv⟩ := h₁
      refine .bind ((ih (fun i hi => hitems i (by simp [hi])) hadv.kept
        (hadv.grows.busy.trans hb)).imp fun vs b₂ h₂ => ?_)
      obtain ⟨hadv', hvs⟩ := h₂
      exact .pure ⟨hadv.trans hadv', .cons (hadv'.grows.built _ _ hv) hvs⟩

/-- The key that comes of a node is its text if it is to be kept as it is written. -/
theorem makeKey_gives (hmake : p.Makes make busy) {key : Nat} (hlt : key < p.size)
    (hrank : ∀ m ∈ busy, p.rank key < p.rank m)
    (hlit : p.literal key → (b.graph.get key).tag = ScalarType.text.tag)
    (h : p.Kept todo b) (hb : b.busy = busy) : Gives (makeKey make whole key) b fun k b' =>
      p.Advances todo b b' ∧ (p.literal key → ∀ t, p.content key = .scalar t → k = .text t) := by
  refine .makeKey ((hmake todo b key true h hb hlt hrank hlit).imp fun v b₁ h₁ => ?_)
  obtain ⟨hadv, hv⟩ := h₁
  have htext : p.literal key → ∀ t, p.content key = .scalar t → v = .text t := fun hl =>
    hadv.kept.literal key v hl hv
  refine ⟨⟨hadv, htext⟩, fun c items hc _ => ⟨hadv, fun hl t ht => ?_⟩⟩
  cases hc.symm.trans (htext hl t ht)

/-- Entries are added in the order of the pairs, and no key comes twice. -/
theorem makeEntries_gives (hmake : p.Makes make busy) (pairs : List (Nat × Nat))
    (hkeys : ∀ q ∈ pairs, q.1 < p.size ∧ (∀ m ∈ busy, p.rank q.1 < p.rank m) ∧
      (p.literal q.1 → (b.graph.get q.1).tag = ScalarType.text.tag))
    (hvalues : ∀ q ∈ pairs, q.2 < p.size ∧ (∀ m ∈ busy, p.rank q.2 < p.rank m) ∧
      (p.literal q.2 → p.tag q.2 = ScalarType.text.tag))
    {es : List (Value × Value)} (hes : DistinctKeys es) (h : p.Kept todo b) (hb : b.busy = busy) :
    Gives (makeEntries make whole true pairs es) b fun es' b' => p.Advances todo b b' ∧
      DistinctKeys es' ∧ ∃ new, es' = es ++ new ∧ List.Forall₂ (p.IsEntry b'.value) pairs new := by
  induction pairs generalizing b es with
  | nil => exact .pure ⟨.refl h, hes, [], by simp, .nil⟩
  | cons q rest ih =>
      obtain ⟨hk, hkrank, hlit⟩ := hkeys q (by simp)
      obtain ⟨hv, hvrank, hnlit⟩ := hvalues q (by simp)
      refine .makeEntries_cons ((makeKey_gives hmake hk hkrank hlit h hb).imp fun k b₁ h₁ => ?_)
      obtain ⟨hadv₁, hkey⟩ := h₁
      refine (hmake todo b₁ q.2 false hadv₁.kept (hadv₁.grows.busy.trans hb) hv hvrank
        fun hl => hadv₁.kept.graph.text (hnlit hl)).imp fun v b₂ h₂ hnone => ?_
      obtain ⟨hadv₂, hvalue⟩ := h₂
      have hadv := hadv₁.trans hadv₂
      refine (ih (fun q' hq' => ?_) (fun q' hq' => hvalues q' (by simp [hq'])) (hes.putKey k v)
        hadv.kept (hadv.grows.busy.trans hb)).imp fun es' b' h' => ?_
      · obtain ⟨h₁, h₂, h₃⟩ := hkeys q' (by simp [hq'])
        exact ⟨h₁, h₂, fun hl => hadv.grows.graph.text (h₃ hl)⟩
      · obtain ⟨hadv', hdistinct, new, rfl, hnew⟩ := h'
        refine ⟨hadv.trans hadv', hdistinct, (k, v) :: new, ?_, .cons ⟨?_, hkey⟩ hnew⟩
        · rw [putKey_of_lookupKey v (hnone rfl), List.append_assoc]
          rfl
        · exact hadv'.grows.built _ _ hvalue

variable {mode : BuildMode}

/-- The keys of a mapping in a plan ask for nothing special. -/
theorem Plan.Kept.unmerged (hs : p.Sound) (h : p.Kept todo b) {n : Nat} (hn : n < p.size) :
    Unmerged b.graph n := by
  refine Unmerged.retags (fun k hk => ?_) h.graph
  obtain ⟨-, -, hmerge, hvalue⟩ := hs.keys n hn k hk
  exact ⟨hmerge, hvalue⟩

/-- The entries of a mapping are those of its pairs. -/
theorem mappingEntries_gives (hs : p.Sound) (hmake : p.Makes make busy)
    (hmode : mode.literalKeys = true) {n : Nat} (hn : n < p.size)
    (hrank : ∀ m ∈ busy, p.rank n ≤ p.rank m) (h : p.Kept todo b) (hb : b.busy = busy) :
    Gives (mappingEntries mode make n) b fun es b' => p.Advances todo b b' ∧
      ∃ pairs merged, p.content n = .mapping pairs merged ∧
        List.Forall₂ (p.IsEntry b'.value) pairs es ∧ DistinctKeys es := by
  refine .mappingEntries (P := fun s => p.Advances todo b s ∧ ∀ k ∈ (p.content n).keys,
    p.literal k → (s.graph.get k).tag = ScalarType.text.tag) (fun _ => ?_) ?_ ?_
  · refine (flatten_gives _ n (h.unmerged hs hn)).imp fun _ b₁ hr₁ => ⟨fun _ => ?_, fun hno => ?_⟩
    · have hadv₁ := h.retagged hr₁
      -- flattening and keeping keys only change tags, so the bounds of the plan still hold
      have hbound : ∀ k ∈ (b₁.graph.get n).content.keys, k < b₁.graph.nodes.size := by
        intro k hk
        rw [hadv₁.kept.content] at hk
        rw [hadv₁.kept.graph.size]
        exact (hs.keys n hn k hk).1
      refine (keepKeys_gives n hbound).imp fun _ b₂ h₂ => ?_
      obtain ⟨hr₂, htext⟩ := h₂
      refine ⟨hadv₁.trans (hadv₁.kept.retagged hr₂), fun k hk hl => ?_⟩
      refine htext k (by rw [hadv₁.kept.content]; exact hk) ?_
      rw [hadv₁.kept.content]
      exact hs.literal k hl
    · cases hmode.symm.trans hno
  · rintro s pairs ⟨hadv, hkeys⟩ hc
    rw [hadv.kept.content] at hc
    rw [hc] at hkeys
    refine (makeEntries_gives hmake pairs (fun q hq => ?_) (fun q hq => ?_) .nil hadv.kept
      (hadv.grows.busy.trans hb)).imp fun es b' h' => ?_
    · have hq := List.mem_map_of_mem (f := Prod.fst) hq
      obtain ⟨hlt, hr, -⟩ := hs.keys n hn q.1 (by rw [hc]; exact hq)
      exact ⟨hlt, fun m hm => Nat.lt_of_lt_of_le hr (hrank m hm), hkeys q.1 hq⟩
    · obtain ⟨hlt, hr, hlit⟩ := hs.values n hn q.2
        (by rw [hc]; exact List.mem_map_of_mem (f := Prod.snd) hq)
      exact ⟨hlt, fun m hm => Nat.lt_of_lt_of_le hr (hrank m hm), hlit⟩
    · obtain ⟨hadv', hdistinct, new, rfl, hnew⟩ := h'
      exact ⟨hadv.trans hadv', pairs, none, hc, hnew, hdistinct⟩
  · rintro s pairs merged ⟨hadv, -⟩ hc
    rw [hadv.kept.content] at hc
    cases hs.unmerged n hn _ _ hc

/-- A collection is filled as its node asks for. -/
theorem fill_gives (hs : p.Sound) (hmake : p.Makes make busy) (hmode : mode.literalKeys = true)
    {f : Filling} (hrank : ∀ m ∈ busy, p.rank f.node ≤ p.rank m) (h : p.Kept (f :: todo) b)
    (hb : b.busy = busy) : Gives (fill mode make f) b fun _ b' => ∃ b₁ c,
      p.Advances (f :: todo) b b₁ ∧ p.Holds b₁.value f.node c ∧
        b' = { b₁ with store := b₁.store.put f.container c } := by
  obtain ⟨hfits, -, -⟩ := h.filling f (by simp)
  have hplain := hfits.plain
  refine .fill (fun items hf hc => ?_) (fun hf => ?_) (fun hf => ?_) (fun items hf hc => ?_)
    fun items hf hc => ?_
  · rw [h.content] at hc
    refine (makeItems_gives hmake items (fun i hi => ?_) h hb).imp fun vs b₁ h₁ =>
      ⟨b₁, .list vs, h₁.1, ?_, rfl⟩
    · obtain ⟨hlt, hr, hlit⟩ := hs.values f.node hfits.bound i (by rw [hc]; exact hi)
      exact ⟨hlt, fun m hm => Nat.lt_of_lt_of_le hr (hrank m hm), hlit⟩
    · unfold Plan.Holds
      rw [hc]
      exact ⟨vs, rfl, h₁.2⟩
  · refine (mappingEntries_gives hs hmake hmode hfits.bound hrank h hb).imp fun es b₁ h₁ =>
      ⟨b₁, .mapping es, h₁.1, ?_, rfl⟩
    obtain ⟨-, pairs, merged, hc, hentries, hdistinct⟩ := h₁
    unfold Plan.Holds
    rw [hc]
    exact .inl ⟨es, rfl, hentries, hdistinct⟩
  · refine (mappingEntries_gives hs hmake hmode hfits.bound hrank h hb).imp fun es b₁ h₁ =>
      ⟨b₁, .set (es.map Prod.fst), h₁.1, ?_, rfl⟩
    obtain ⟨-, pairs, merged, hc, -, -⟩ := h₁
    have htag := hfits.set hf (by rw [hc]; rfl)
    unfold Plan.Holds
    rw [hc]
    exact .inr ⟨htag, _, rfl⟩
  -- no sequence of a plan is an ordered map or a list of pairs
  · rw [h.content] at hc
    exact absurd hf (hplain (by rw [hc]; rfl)).1
  · rw [h.content] at hc
    exact absurd hf (hplain (by rw [hc]; rfl)).2

end Collections

/-! ### Nodes -/

/-- What making the value of a node does before the value is noted. -/
structure Plan.Made (p : Plan) (todo : List Filling) (n : Nat) (b : Builder) (v : Value)
    (b' : Builder) : Prop where
  kept : p.Kept todo b'
  grows : b.Grows b'
  left : b'.left ≤ b.left + 1
  shaped : p.Shaped b' n v ∨ ∃ f ∈ b'.pending.toList, f.node = n ∧ v = .ref f.container
  fresh : ∀ c, v = .ref c → b.store.containers.size ≤ c ∧ c < b'.store.containers.size ∧
    (∀ m, b'.value m ≠ some (.ref c)) ∧
    ∀ f ∈ todo ++ b'.pending.toList, f.container = c → f.node = n
  literal : p.literal n → ∀ t, p.content n = .scalar t → v = .text t

section Nodes

variable {p : Plan} {make : Maker} {busy : List Nat} {todo : List Filling} {mode : BuildMode}

/-- A value that is no container leaves everything as it was. -/
theorem Plan.Kept.made_atom (h : p.Kept todo b) {n : Nat} {v : Value} (hv : v.IsAtom)
    (hsequence : (p.content n).kind ≠ .sequence)
    (hmapping : (p.content n).kind = .mapping → p.tag n ≠ mappingTag)
    (hlit : p.literal n → ∀ t, p.content n = .scalar t → v = .text t) : p.Made todo n b v b where
  kept := h
  grows := .refl b
  left := Nat.le_succ _
  shaped := .inl (.inl ⟨hv, hsequence, hmapping⟩)
  fresh c hc := by
    subst hc
    exact hv.elim
  literal := hlit

/-- A node whose recipe is for no collection is no mapping with the tag of mappings. -/
theorem Plan.Kept.tag_ne_mapping (h : p.Kept todo b) {n : Nat} {r : Recipe}
    (hr : Recipe.ofTag? (b.graph.get n).tag = some r) (hne : r ≠ .collection .mapping) :
    (p.content n).kind = .mapping → p.tag n ≠ mappingTag := by
  intro hk ht
  rcases h.tag n with htag | ⟨hk', -⟩
  · rw [htag, ht] at hr
    exact hne (Option.some.inj hr).symm
  · rw [hk] at hk'
    cases hk'

/-- The collection that a tag asks for fits its node. -/
theorem Plan.Kept.fits (hs : p.Sound) (h : p.Kept todo b) {n c : Nat} (hn : n < p.size)
    {filler : Filler} (hr : Recipe.ofTag? (b.graph.get n).tag = some (.collection filler)) :
    p.Fits ⟨filler, n, c⟩ := by
  refine ⟨hn, fun hk => ?_, ?_⟩
  · rcases h.tag n with htag | ⟨-, htag⟩
    · rw [htag] at hr
      constructor
      · rintro rfl
        exact (hs.tags n hn hk).1 hr
      · rintro rfl
        exact (hs.tags n hn hk).2 hr
    · rw [htag] at hr
      cases hr
  · rintro rfl
    exact h.tag_ne_mapping hr (by simp)

/-- A collection that is filled as soon as it is there. -/
theorem Plan.Kept.made_filled (h : p.Kept todo b) {n : Nat} {filler : Filler} {b₁ : Builder}
    {c : Container}
    (hadv : p.Advances (⟨filler, n, b.store.containers.size⟩ :: todo)
      { b with store := (b.store.add filler.initial).2 } b₁) (hholds : p.Holds b₁.value n c)
    (hlit : p.literal n → ∀ t, p.content n = .scalar t →
      Value.ref b.store.containers.size = .text t) :
    p.Made todo n b (.ref b.store.containers.size)
      { b₁ with store := b₁.store.put b.store.containers.size c } := by
  have hgrows := (Builder.Grows.alloc b filler.initial).trans hadv.grows
  have hsize := hadv.grows.size
  simp only [Store.add, Array.size_push] at hsize
  refine ⟨hadv.kept.fill hholds, hgrows.put (Nat.le_refl _) c, Nat.le_succ_of_le hadv.left,
    .inl (.inr ⟨_, rfl, ?_⟩), ?_, hlit⟩
  · rw [Store.get_put_self (n := b.store.containers.size) (by omega)]
    exact hholds
  · rintro _ ⟨⟩
    refine ⟨Nat.le_refl _, by simp only [Store.size_put]; omega, fun m hm => ?_, fun f hf hc => ?_⟩
    -- a value that was there before cannot be the new collection
    · have := h.bound m _ (hadv.grows.unowned (by simp [Store.add]) hm)
      omega
    · exact hadv.kept.apart f (List.mem_cons_of_mem _ hf) _ List.mem_cons_self hc

/-- A collection that waits among those pending. -/
theorem Plan.Kept.made_pending (h : p.Kept todo b) {n : Nat} {filler : Filler}
    (hfits : p.Fits ⟨filler, n, b.store.containers.size⟩)
    (hlit : p.literal n → ∀ t, p.content n = .scalar t →
      Value.ref b.store.containers.size = .text t) :
    p.Made todo n b (.ref b.store.containers.size)
      { b with
        store := (b.store.add filler.initial).2
        pending := b.pending.push ⟨filler, n, b.store.containers.size⟩ } := by
  have hgrows := Builder.Grows.alloc b filler.initial
  have hpost := (h.alloc hfits rfl filler.initial).postpone
  refine ⟨hpost, ⟨hgrows.graph, hgrows.built, hgrows.size, hgrows.kept, hgrows.fresh, rfl⟩, ?_,
    .inr ⟨⟨filler, n, b.store.containers.size⟩, by simp, rfl, rfl⟩, ?_, hlit⟩
  · simp only [Builder.left, Array.size_push]
    omega
  · rintro _ ⟨⟩
    refine ⟨Nat.le_refl _, by simp [Store.add], fun m hm => ?_, fun f hf hc => ?_⟩
    · have := h.bound m _ hm
      omega
    · exact hpost.apart f hf ⟨filler, n, b.store.containers.size⟩ (by simp) hc

/-- The value of a node has its shape, or is a collection that is to be filled. -/
theorem makeNode_gives (hs : p.Sound) (hmake : p.Makes make busy) (hmode : mode.literalKeys = true)
    {n : Nat} (hn : n < p.size) (hrank : ∀ m ∈ busy, p.rank n ≤ p.rank m) (h : p.Kept todo b)
    (hb : b.busy = busy) (hlit : p.literal n → (b.graph.get n).tag = ScalarType.text.tag) :
    Gives (makeNode mode make n) b (p.Made todo n b) := by
  -- a key that is kept as it is written has the tag of texts
  have htext : ∀ {r}, Recipe.ofTag? (b.graph.get n).tag = some r → p.literal n → r = .text := by
    intro r hr hl
    rw [hlit hl] at hr
    exact (Option.some.inj hr).symm
  have hscalar : ∀ {filler}, Recipe.ofTag? (b.graph.get n).tag = some (.collection filler) →
      p.literal n → ∀ t, p.content n = .scalar t → Value.ref b.store.containers.size = .text t := by
    intro filler hr hl
    cases htext hr hl
  refine .makeNode (fun r hr => (Gives.scalarText _ n).imp fun t b' ht v hv => ?_)
    (fun filler hr _ => ?_) fun filler hr _ => h.made_pending (h.fits hs hn hr) (hscalar hr)
  · obtain ⟨rfl, hk, hwritten⟩ := ht
    rw [h.content] at hk hwritten
    refine h.made_atom (Recipe.isScalar_of_read? hv).isAtom hk (h.tag_ne_mapping hr ?_) fun hl s hs => ?_
    · rintro rfl
      cases hv
    · obtain rfl := htext hr hl
      rw [← hwritten s hs]
      exact (Option.some.inj hv).symm
  · refine (fill_gives hs hmake hmode hrank (h.alloc (h.fits hs hn hr) rfl filler.initial) hb).imp
      fun _ b' hfill => ?_
    obtain ⟨b₁, c, hadv, hholds, rfl⟩ := hfill
    exact h.made_filled hadv hholds (hscalar hr)

theorem Builder.value_note {n : Nat} (v : Value) (eager : Bool) (hn : n < b.built.size) (m : Nat) :
    (b.note n v eager).value m = if m = n then some v else b.value m := by
  simp only [Builder.value, Builder.note, Array.getD_eq_getD_getElem?, Array.getElem?_setIfInBounds]
  by_cases hm : m = n
  · simp [hm, hn]
  · simp [hm, Ne.symm hm]

/-- Noting a value leaves less to be done. -/
theorem Builder.left_note {n : Nat} (v : Value) (eager : Bool) (hn : n < b.built.size)
    (hv : b.value n = none) : (b.note n v eager).left + 1 = b.left := by
  have hlt : n < b.built.toList.length := by simpa using hn
  have hnone : b.built.toList[n] = none := by
    simpa [Builder.value, Array.getD, hn] using hv
  have hpos : 0 < b.built.toList.countP Option.isNone :=
    List.countP_pos_iff.mpr ⟨_, List.getElem_mem hlt, by rw [hnone]; rfl⟩
  simp only [Builder.left, Builder.note, Array.toList_setIfInBounds, List.countP_set hlt, hnone,
    Option.isNone_none, Option.isNone_some, if_true, Bool.false_eq_true, if_false]
  omega

/-- Noting a value leaves all others as they are. -/
theorem Builder.value_note_of_some {n : Nat} (v : Value) (eager : Bool) (hn : n < b.built.size)
    (hv : b.value n = none) {m : Nat} {w : Value} (hm : b.value m = some w) :
    (b.note n v eager).value m = some w := by
  rw [Builder.value_note v eager hn, if_neg]
  · exact hm
  · rintro rfl
    cases hv.symm.trans hm

/-- A node that has just been made has no value yet. -/
theorem Plan.Made.unnoted {b' : Builder} {n : Nat} {v : Value} (h : p.Made todo n b v b')
    (hbusy : b.busy = n :: busy) : n < b'.built.size ∧ b'.value n = none := by
  have hmem : n ∈ b'.busy := by rw [h.grows.busy, hbusy]; exact List.mem_cons_self
  rw [h.kept.size]
  exact h.kept.busy n hmem

/-- When the value of a node that has been made is noted, all is as it should be. -/
theorem Plan.Made.kept_note {b' : Builder} {n : Nat} {v : Value} (h : p.Made todo n b v b')
    (hbusy : b.busy = n :: busy) (eager : Bool) : p.Kept todo (b'.note n v eager) := by
  obtain ⟨hn, hnone⟩ := h.unnoted hbusy
  have hvalue := Builder.value_note v eager hn
  constructor
  · exact h.kept.graph
  · simpa [Builder.note] using h.kept.size
  · intro m c hm
    rw [hvalue] at hm
    -- a value is the new one or one that was there; the new one has a container that nothing else
    -- has
    split at hm
    · exact (h.fresh c (Option.some.inj hm)).2.1
    · exact h.kept.bound m c hm
  · intro m k c hm hk
    rw [hvalue] at hm hk
    split at hm
    · split at hk
      · omega
      · exact absurd hk ((h.fresh c (Option.some.inj hm)).2.2.1 k)
    · split at hk
      · exact absurd hm ((h.fresh c (Option.some.inj hk)).2.2.1 m)
      · exact h.kept.own m k c hm hk
  · intro m w hm
    rw [hvalue] at hm
    have hlift : p.Shaped b' m w ∨ (∃ f ∈ todo ++ b'.pending.toList, f.node = m ∧
        w = .ref f.container) := by
      split at hm
      · next hmn =>
        subst hmn
        cases hm
        exact h.shaped.imp_right fun ⟨f, hf, hfn⟩ => ⟨f, List.mem_append_right _ hf, hfn⟩
      · exact h.kept.shaped m w hm
    exact hlift.imp_left fun hs =>
      hs.mono (fun _ _ => Builder.value_note_of_some v eager hn hnone) fun _ _ => rfl
  · intro f hf
    obtain ⟨h₁, h₂, h₃⟩ := h.kept.filling f hf
    refine ⟨h₁, h₂, fun m hm => ?_⟩
    rw [hvalue] at hm
    split at hm
    · next hmn => rw [hmn, (h.fresh _ (Option.some.inj hm)).2.2.2 f hf rfl]
    · exact h₃ m hm
  · exact h.kept.apart
  · intro k w hl hk
    rw [hvalue] at hk
    split at hk
    · next hkn =>
      subst hkn
      cases hk
      exact h.literal hl
    · exact h.kept.literal k w hl hk
  · intro m hm
    have hne : m ≠ n := fun hmn => (h.kept.nodup.mem_erase_iff.mp hm).1 hmn
    obtain ⟨h₁, h₂⟩ := h.kept.busy m (List.mem_of_mem_erase hm)
    exact ⟨h₁, by rw [hvalue, if_neg hne]; exact h₂⟩
  · exact h.kept.nodup.erase n

/-- A node has been made and its value is noted. -/
theorem Plan.Made.note {b' : Builder} {n : Nat} {v : Value} (h : p.Made todo n b v b')
    (hbusy : b.busy = n :: busy) (eager : Bool) :
    (b'.note n v eager).value n = some v ∧
      (∀ m w, b.value m = some w → (b'.note n v eager).value m = some w) ∧
      (∀ m c, b.value m = none → (b'.note n v eager).value m = some (.ref c) →
        b.store.containers.size ≤ c) ∧ (b'.note n v eager).left ≤ b.left := by
  obtain ⟨hn, hnone⟩ := h.unnoted hbusy
  have hvalue := Builder.value_note v eager hn
  refine ⟨by rw [hvalue, if_pos rfl], fun m w hm =>
    Builder.value_note_of_some v eager hn hnone (h.grows.built m w hm), fun m c hm hmc => ?_, ?_⟩
  · rw [hvalue] at hmc
    split at hmc
    · exact (h.fresh c (Option.some.inj hmc)).1
    · exact h.grows.fresh m c hm hmc
  · have := Builder.left_note v eager hn hnone
    have := h.left
    omega

/-- A node is made once, after all that lies inside it. -/
theorem make_gives (hs : p.Sound) (hmode : mode.literalKeys = true) (depth : Nat)
    (busy : List Nat) : p.Makes (Build.make mode depth) busy := by
  induction depth generalizing busy with
  | zero => exact fun _ _ _ _ _ _ _ _ _ => .throw
  | succ depth ih =>
      intro todo b n eager h hb hn hrank hlit
      -- ranks fall, so the node is not being made already
      have hbusy : n ∉ b.busy := fun hm => Nat.lt_irrefl _ (hrank n (hb ▸ hm))
      refine .make_succ (fun v hv => ⟨.refl h, hv⟩) (fun _ hm => absurd hm hbusy) fun hv _ => ?_
      have hkept := (h.eager (eager || b.eager)).begin hn hv hbusy
      refine (makeNode_gives hs (ih (n :: busy)) hmode hn (fun m hm => ?_) hkept (by simp [hb])
        hlit).imp fun v b' hmade => ?_
      · rcases List.mem_cons.mp hm with rfl | hm
        · exact Nat.le_refl _
        · exact Nat.le_of_lt (hrank m hm)
      · let eager' := if eager then b.eager else b'.eager
        have hkept' := hmade.kept_note (rfl : _ = n :: b.busy) eager'
        obtain ⟨hvalue, hbuilt, hfresh, hleft⟩ := hmade.note (rfl : _ = n :: b.busy) eager'
        refine ⟨⟨hkept', ⟨hmade.grows.graph, hbuilt, hmade.grows.size, hmade.grows.kept, hfresh,
          ?_⟩, hleft⟩, hvalue⟩
        simp only [Builder.note, hmade.grows.busy, List.erase_cons_head]

/-- What is pending is filled in the end: a round that leaves anything pending made a node. -/
theorem fillRounds_gives (hs : p.Sound) (hmake : p.Makes make []) (hmode : mode.literalKeys = true)
    (fuel : Nat) (h : p.Kept [] b) (hb : b.busy = [])
    (hfuel : b.pending = #[] ∨ b.built.toList.countP Option.isNone < fuel) :
    Gives (fillRounds mode make fuel) b fun _ b' => p.Kept [] b' ∧ b'.pending = #[] ∧
      ∀ n v, b.value n = some v → b'.value n = some v := by
  induction fuel generalizing b with
  | zero => exact .pure ⟨h, hfuel.resolve_right (by simp), fun _ _ hv => hv⟩
  | succ fuel ih =>
      -- every filling that is added in this round belongs to a node made in it
      let I (rest : List Filling) (s : Builder) : Prop := p.Kept rest s ∧ s.busy = [] ∧
        s.left ≤ b.built.toList.countP Option.isNone ∧
        ∀ n v, b.value n = some v → s.value n = some v
      refine .fillRounds_succ I (fun hnil => ⟨h, hnil, fun _ _ hv => hv⟩)
        (fun _ => ⟨h.takeUp, hb, ?_, fun _ _ hv => hv⟩) ?_ ?_
      · simp [Builder.left]
      · rintro f rest s ⟨hkept, hbusy, hleft, hbuilt⟩
        refine (fill_gives hs hmake hmode (by simp) hkept hbusy).imp fun _ s' hf => ?_
        obtain ⟨b₁, c, hadv, hholds, rfl⟩ := hf
        exact ⟨hadv.kept.fill hholds, hadv.grows.busy.trans hbusy, Nat.le_trans hadv.left hleft,
          fun n v hv => hadv.grows.built n v (hbuilt n v hv)⟩
      · rintro hne s ⟨hkept, hbusy, hleft, hbuilt⟩
        refine (ih hkept hbusy ?_).imp fun _ s' h' => ⟨h'.1, h'.2.1, fun n v hv =>
          h'.2.2 n v (hbuilt n v hv)⟩
        have hlt := hfuel.resolve_left hne
        rcases Nat.eq_zero_or_pos s.pending.size with hzero | hpos
        · exact .inl (Array.eq_empty_of_size_eq_zero hzero)
        · unfold Builder.left at hleft
          exact .inr (by omega)

/-- The value of a document has the shape of its root, and so have all values inside it. -/
theorem document_gives (hs : p.Sound) (hmode : mode.literalKeys = true) {root : Nat}
    (hroot : root < p.size) (hlit : p.literal root → p.tag root = ScalarType.text.tag) :
    Gives (document mode root) { Builder.empty with graph := p.graph } fun v b =>
      b.value root = some v ∧ (∀ n v, b.value n = some v → p.Shaped b n v) ∧
        (∀ n c, b.value n = some (.ref c) → c < b.store.containers.size) ∧
        ∀ n m c, b.value n = some (.ref c) → b.value m = some (.ref c) → n = m := by
  have hkept : p.Kept [] (Builder.begin p.graph) := by
    have hvalue := Builder.value_begin p.graph
    refine ⟨.refl _, Builder.size_built_begin _, ?_, ?_, ?_, ?_, ?_, ?_, ?_, List.nodup_nil⟩
    · intro n c hn
      cases (hvalue n).symm.trans hn
    · intro n m c hn
      cases (hvalue n).symm.trans hn
    · intro n v hn
      cases (hvalue n).symm.trans hn
    · simp [Builder.begin, Builder.empty]
    · simp [Builder.begin, Builder.empty]
    · intro k v _ hk
      cases (hvalue k).symm.trans hk
    · simp [Builder.begin, Builder.empty]
  refine .document fun depth => ?_
  have hmake := make_gives hs hmode depth []
  refine ((hmake [] _ root false hkept rfl hroot (by simp) hlit).imp fun v b₁ h₁ => ?_)
  obtain ⟨hadv, hv⟩ := h₁
  -- there are no more rounds than nodes
  have hfew : b₁.built.toList.countP Option.isNone < p.size + 2 := by
    have := List.countP_le_length (p := Option.isNone) (l := b₁.built.toList)
    rw [Array.length_toList, hadv.kept.size] at this
    omega
  refine (fillRounds_gives hs hmake hmode _ hadv.kept (hadv.grows.busy.trans rfl)
    (.inr hfew)).imp fun _ b₂ h₂ => ?_
  obtain ⟨hkept₂, hpending, hbuilt⟩ := h₂
  refine ⟨hbuilt root v hv, fun n w hw => (hkept₂.shaped n w hw).resolve_right ?_,
    hkept₂.bound, hkept₂.own⟩
  simp [hpending]

end Nodes

end YamlAudit.Yaml
