import YamlAudit.Proofs.Yaml.Stands

/-!
# Yaml — building makes values that stand for their nodes

Every part of building a value from a graph, whatever the graph, keeps `Graph.Underway` and leaves
the values that are there (`Graph.Advances`): one law a part, in the order in which the parts call one
another.  A node is met again before it has been made only inside a key, where all is filled at once
(`Graph.Around`).

* `ValueReader.read_stands`: the value of a text stands for the root of its graph.

The graph may be circular, and merge keys may bring pairs from anywhere, so a value may be met while
its container is still empty.  What is known of it then is which node is to fill it, and this is
what the invariant keeps until all is filled.
-/

open Relation

namespace YamlAudit.Yaml

open Build

/-- What a part of building leaves as it was, and that it leaves no more to be done. -/
structure Builder.Keeps (b b' : Builder) : Prop where
  value : ∀ n v, b.value n = some v → b'.value n = some v
  busy : b'.busy = b.busy
  eager : b'.eager = b.eager
  left : b'.left ≤ b.left

namespace Builder.Keeps

variable {b b' b'' : Builder}

theorem refl (b : Builder) : b.Keeps b := ⟨fun _ _ h => h, rfl, rfl, Nat.le_refl _⟩

theorem trans (h : b.Keeps b') (h' : b'.Keeps b'') : b.Keeps b'' :=
  ⟨fun n v hv => h'.value n v (h.value n v hv), h'.busy.trans h.busy, h'.eager.trans h.eager,
    Nat.le_trans h'.left h.left⟩

end Builder.Keeps

namespace Graph

/-- A part of building has been done, with `todo` still to be filled. -/
structure Advances (g : Graph) (mode : BuildMode) (todo : List Filling) (b b' : Builder) : Prop where
  underway : ∃ owner, g.Underway mode owner todo b'
  keeps : b.Keeps b'

/-- How a node lies to those that are being made: they are around it, and all is filled at once if
there are any, which is only so in a key. -/
structure Around (g : Graph) (rel : Nat → Nat → Prop) (b : Builder) (n : Nat) : Prop where
  busy : ∀ m ∈ b.busy, rel m n
  inKey : b.eager = true → g.InKey n
  eager : b.busy ≠ [] → b.eager = true

variable {g : Graph} {mode : BuildMode} {owner : Nat → Filling} {todo : List Filling}
  {b b' b'' : Builder} {n m : Nat} {rel : Nat → Nat → Prop}

theorem Advances.refl (h : ∃ owner, g.Underway mode owner todo b) : g.Advances mode todo b b :=
  ⟨h, .refl b⟩

theorem Advances.trans (h : g.Advances mode todo b b') (h' : g.Advances mode todo b' b'') :
    g.Advances mode todo b b'' :=
  ⟨h'.underway, h.keeps.trans h'.keeps⟩

theorem Advances.evolved (h : g.Underway mode owner todo b)
    (hb : Evolved g mode.literalKeys b b') : g.Advances mode todo b b' := by
  obtain ⟨g', hg', rfl⟩ := hb
  exact ⟨⟨owner, h.evolve hg'⟩, fun _ _ h => h, rfl, rfl, Nat.le_refl _⟩

theorem Around.keeps (h : g.Around rel b n) (hb : b.Keeps b') : g.Around rel b' n where
  busy := hb.busy ▸ h.busy
  inKey he := h.inKey (hb.eager ▸ he)
  eager hne := hb.eager ▸ h.eager (hb.busy ▸ hne)

/-- What lies inside a node that is filled may be made. -/
theorem Around.inside (h : g.Around (ReflTransGen g.Child) b n) (hm : TransGen g.Child n m) :
    g.Around (TransGen g.Child) b m where
  busy k hk := .trans_right (h.busy k hk) hm
  inKey he := by
    obtain ⟨k, hk, hn⟩ := h.inKey he
    exact ⟨k, hk, hn.trans hm.to_reflTransGen⟩
  eager := h.eager

end Graph

/-- What is in a node may be made, and the node be filled. -/
structure Graph.MayFill (g : Graph) (mode : BuildMode) (busy : List Nat) (todo : List Filling)
    (b : Builder) (n : Nat) : Prop where
  underway : ∃ owner, g.Underway mode owner todo b
  busy : b.busy = busy
  around : g.Around (ReflTransGen g.Child) b n

open YamlAudit.Yaml.Graph

/-- What making a node does, with some nodes begun. -/
def Makes (g : Graph) (mode : BuildMode) (make : Maker) (busy : List Nat) : Prop :=
  ∀ (todo : List Filling) (b : Builder) (n : Nat) (eager : Bool),
    (∃ owner, g.Underway mode owner todo b) → b.busy = busy → g.Around (TransGen g.Child) b n →
    (eager = true → g.IsKey n) →
    Gives (make n eager) b fun v b' => g.Advances mode todo b b' ∧ g.Given b' n v

/-! ### Collections -/

section Collections

variable {g : Graph} {mode : BuildMode} {make : Maker} {busy : List Nat} {todo : List Filling}
  {b b' b'' : Builder} {whole : GraphNode} {n m : Nat} {f : Filling}

theorem Graph.MayFill.advance (h : g.MayFill mode busy todo b n) (hadv : g.Advances mode todo b b') :
    g.MayFill mode busy todo b' n :=
  ⟨hadv.underway, hadv.keeps.busy.trans h.busy, h.around.keeps hadv.keeps⟩

/-- What is in a node is made. -/
theorem Makes.inside (hmake : Makes g mode make busy) (h : g.MayFill mode busy todo b n)
    (hm : TransGen g.Child n m) :
    Gives (make m false) b fun v b' => g.Advances mode todo b b' ∧ g.Given b' m v :=
  hmake todo b m false h.underway h.busy (h.around.inside hm) nofun

theorem makeItems_given (hmake : Makes g mode make busy) (items : List Nat)
    (hitems : ∀ i ∈ items, g.Child n i) (h : g.MayFill mode busy todo b n) :
    Gives (makeItems make items) b fun vs b' =>
      g.Advances mode todo b b' ∧ List.Forall₂ (g.Given b') items vs := by
  induction items generalizing b with
  | nil => exact .pure ⟨.refl h.underway, .nil⟩
  | cons item rest ih =>
      refine .bind ((hmake.inside h (.single (hitems item List.mem_cons_self))).imp
        fun v b₁ h₁ => ?_)
      obtain ⟨hadv, hv⟩ := h₁
      refine .bind ((ih (fun i hi => hitems i (List.mem_cons_of_mem _ hi)) (h.advance hadv)).imp
        fun vs b₂ h₂ => .pure ?_)
      obtain ⟨hadv', hvs⟩ := h₂
      exact ⟨hadv.trans hadv', .cons (hv.mono hadv'.keeps.value) hvs⟩

theorem makeKey_given (hmake : Makes g mode make busy) (h : g.MayFill mode busy todo b n)
    {p : Nat × Nat} (hp : g.Offers n p) :
    Gives (makeKey make whole p.1) b fun k b' => g.Advances mode todo b b' ∧ g.KeyOf b' p.1 k := by
  have haround := h.around.inside (.single (.key hp))
  refine .makeKey ((hmake todo b p.1 true h.underway h.busy haround fun _ => hp.isKey).imp
    fun v b₁ h₁ => ?_)
  obtain ⟨hadv, hv⟩ := h₁
  refine ⟨⟨hadv, v, .refl, .inl hv⟩, ?_⟩
  rintro c items rfl -
  exact ⟨hadv, _, .refl, .inr ⟨c, items, hv, rfl⟩⟩

/-- An entry comes from a pair, by the values that a builder has. -/
abbrev Graph.Entered (g : Graph) (b : Builder) : Nat → Value × Value → Prop :=
  g.EntryOf (g.KeyOf b) (g.Given b)

theorem Graph.EntryOf.keeps {e : Value × Value} (h : g.Entered b n e) (hb : b.Keeps b') :
    g.Entered b' n e :=
  h.mono (fun _ _ => KeyOf.mono hb.value) fun _ _ => Given.mono hb.value

/-- A value put under the same key comes from the same pair. -/
theorem Graph.EntryOf.congr {k v : Value} {e : Value × Value} (h : g.Entered b n (k, v))
    (hv : e.2 = v) (hk : SameKey e.1 k) : g.Entered b n e := by
  obtain ⟨p, hp, ⟨k', hk', hgiven⟩, hvalue⟩ := h
  exact ⟨p, hp, ⟨k', hk.trans hk', hgiven⟩, hv ▸ hvalue⟩

theorem makeEntries_given (hmake : Makes g mode make busy) (distinct : Bool)
    (pairs : List (Nat × Nat)) (hpairs : ∀ p ∈ pairs, g.Offers n p) {es : List (Value × Value)}
    (hes : ∀ e ∈ es, g.Entered b n e) (h : g.MayFill mode busy todo b n) :
    Gives (makeEntries make whole distinct pairs es) b fun es' b' => g.Advances mode todo b b' ∧
      ∀ e ∈ es', g.Entered b' n e := by
  induction pairs generalizing b es with
  | nil => exact .pure ⟨.refl h.underway, hes⟩
  | cons p rest ih =>
      have hp := hpairs p List.mem_cons_self
      refine .makeEntries_cons ((makeKey_given hmake h hp).imp fun k b₁ h₁ => ?_)
      obtain ⟨hadv₁, hk⟩ := h₁
      refine (hmake.inside (h.advance hadv₁) (.single (.value hp))).imp fun v b₂ h₂ _ => ?_
      obtain ⟨hadv₂, hv⟩ := h₂
      have hadv := hadv₁.trans hadv₂
      have hnew : ∀ e ∈ putKey k v es, g.Entered b₂ n e := by
        intro e he
        rcases mem_putKey he with he | ⟨hvalue, hsame⟩
        · exact (hes e he).keeps hadv.keeps
        · exact EntryOf.congr ⟨p, hp, hk.mono hadv₂.keeps.value, hv⟩ hvalue hsame
      exact (ih (fun q hq => hpairs q (List.mem_cons_of_mem _ hq)) hnew (h.advance hadv)).imp
        fun es' b' h' => ⟨hadv.trans h'.1, h'.2⟩

/-- The entries of a mapping come from pairs that it offers. -/
theorem mappingEntries_given (hmake : Makes g mode make busy) (h : g.MayFill mode busy todo b n) :
    Gives (mappingEntries mode make n) b fun es b' => g.Advances mode todo b b' ∧
      (g.get n).content.kind = .mapping ∧ ∀ e ∈ es, g.Entered b' n e := by
  obtain ⟨owner, hunder⟩ := h.underway
  refine mappingEntries_evolves hunder.graph (fun s pairs hs hc => ?_)
    fun s pairs merged hs hc => ?_
  · have hadv := Advances.evolved hunder hs
    have hkind : (g.get n).content.kind = .mapping := by rw [← hs.graph.kind, hc]; rfl
    refine (makeEntries_given hmake true pairs (fun p hp => hs.graph.pairs n p ?_)
      (List.forall_mem_nil _) (h.advance hadv)).imp fun es b' h' => ⟨hadv.trans h'.1, hkind, h'.2⟩
    rw [hc]
    exact hp
  · have hadv := Advances.evolved hunder hs
    have hkind : (g.get n).content.kind = .mapping := by rw [← hs.graph.kind, hc]; rfl
    have hoffers : ∀ p ∈ merged ++ pairs, g.Offers n p := fun p hp => by
      refine hs.graph.pairs n p ?_
      rw [hc]
      exact hp
    refine (makeEntries_given hmake false merged
      (fun p hp => hoffers p (List.mem_append_left _ hp)) (List.forall_mem_nil _)
      (h.advance hadv)).imp fun first b₁ h₁ => ?_
    obtain ⟨hadv₁, hfirst⟩ := h₁
    refine (makeEntries_given hmake false pairs
      (fun p hp => hoffers p (List.mem_append_right _ hp)) (List.forall_mem_nil _)
      ((h.advance hadv).advance hadv₁)).imp fun second b₂ h₂ => ?_
    obtain ⟨hadv₂, hsecond⟩ := h₂
    refine ⟨(hadv.trans hadv₁).trans hadv₂, hkind, ?_⟩
    -- the pairs written out are put over those that were merged
    refine List.foldlRecOn (motive := fun es => ∀ e ∈ es, g.Entered b₂ n e) second _
      (fun e he => (hfirst e he).keeps hadv₂.keeps) fun es hes e he e' he' => ?_
    rcases mem_putKey he' with he' | ⟨hvalue, hsame⟩
    · exact hes e' he'
    · exact EntryOf.congr (hsecond e he) hvalue hsame

/-- The only pair of an entry is offered by it. -/
theorem Graph.MayFill.offers (h : g.MayFill mode busy todo b n) {entry : Nat} {p : Nat × Nat}
    {merged : Option (List (Nat × Nat))}
    (hc : (b.graph.get entry).content = .mapping [p] merged) : g.Offers entry p := by
  obtain ⟨owner, hunder⟩ := h.underway
  refine hunder.graph.pairs entry p ?_
  rw [hc]
  exact List.mem_append_right _ List.mem_cons_self

/-- A collection that was to be filled holds what it should. -/
structure Graph.Fills (g : Graph) (mode : BuildMode) (todo : List Filling) (f : Filling)
    (b b' : Builder) : Prop where
  advances : g.Advances mode (f :: todo) b b'
  holds : f.filler.Holds g (g.KeyOf b') (g.Given b') f.node (b'.store.get f.container)

theorem Graph.Fills.head (hadv : g.Advances mode (f :: todo) b b')
    (h : g.Fills mode todo f b' b'') : g.Fills mode todo f b b'' :=
  ⟨hadv.trans h.advances, h.holds⟩

/-- What is put into a collection that is being filled is in it. -/
theorem Graph.Advances.put {c : Container} (h : g.Advances mode (f :: todo) b b')
    (hc : (g.get f.node).content = .sequence [] → c = f.filler.initial) :
    g.Advances mode (f :: todo) b { b' with store := b'.store.put f.container c } ∧
      (b'.store.put f.container c).get f.container = c := by
  obtain ⟨owner, hunder⟩ := h.underway
  exact ⟨h.trans ⟨⟨owner, hunder.put List.mem_cons_self hc⟩, fun _ _ h => h, rfl, rfl, Nat.le_refl _⟩,
    Store.get_put_self (hunder.filling f List.mem_cons_self).1 c⟩

/-- A collection is filled when what it asks for is put into it. -/
theorem Graph.Fills.put {c : Container} (h : g.Advances mode (f :: todo) b b')
    (hc : f.filler.Holds g (g.KeyOf b') (g.Given b') f.node c)
    (hempty : (g.get f.node).content = .sequence [] → c = f.filler.initial) :
    g.Fills mode todo f b { b' with store := b'.store.put f.container c } := by
  obtain ⟨hadv, hget⟩ := h.put hempty
  refine ⟨hadv, ?_⟩
  rw [hget]
  exact hc

/-- A collection that has been filled is no longer to be filled. -/
theorem Graph.Fills.done (h : g.Fills mode todo f b b') :
    ∃ owner, g.Underway mode owner todo b' ∧ f.container < b'.store.containers.size ∧
      owner f.container = f := by
  obtain ⟨owner, hunder⟩ := h.advances.underway
  exact ⟨owner, hunder.done h.holds, hunder.filling f List.mem_cons_self⟩

theorem orderedEntries_fills (hmake : Makes g mode make busy) {items : List Nat}
    (hf : f.filler = .ordered) (hc : (g.get f.node).content = .sequence items) (rest : List Nat)
    (hsub : rest ⊆ items) {es : List (Value × Value)}
    (hes : ∀ e ∈ es, ∃ m ∈ items, g.Entered b m e)
    (hlast : rest = [] → b.store.get f.container = .ordered es)
    (h : g.MayFill mode busy (f :: todo) b f.node) :
    Gives (orderedEntries make whole f.container rest es) b fun _ b' =>
      g.Fills mode todo f b b' := by
  -- by induction on the entries that are left; what is in the container comes from the others
  induction rest generalizing b es with
  | nil =>
      refine .pure ⟨.refl h.underway, ?_⟩
      rw [hlast rfl, hf]
      exact ⟨items, hc, hes⟩
  | cons entry rest ih =>
      obtain ⟨hentry, hsub⟩ := List.cons_subset.mp hsub
      have hchild : g.Child f.node entry := .item (by rw [hc]; exact hentry)
      refine .orderedEntries_cons fun p merged hp => ?_
      have hp := h.offers hp
      refine (hmake.inside h (.head hchild (.single (.key hp)))).imp fun k b₁ h₁ => ?_
      obtain ⟨hadv₁, hk⟩ := h₁
      refine (hmake.inside (h.advance hadv₁) (.head hchild (.single (.value hp)))).imp
        fun v b₂ h₂ => ?_
      obtain ⟨hadv₂, hv⟩ := h₂
      have hadv := hadv₁.trans hadv₂
      have hnew : ∀ e ∈ putKey k v es, ∃ m ∈ items, g.Entered b₂ m e := by
        intro e he
        rcases mem_putKey he with he | ⟨hvalue, hsame⟩
        · obtain ⟨m, hm, he⟩ := hes e he
          exact ⟨m, hm, he.keeps hadv.keeps⟩
        · exact ⟨entry, hentry,
            EntryOf.congr ⟨p, hp, ⟨k, .refl, .inl (hk.mono hadv₂.keeps.value)⟩, hv⟩ hvalue hsame⟩
      obtain ⟨hput, hget⟩ := hadv.put (c := .ordered (putKey k v es)) fun hempty => by
        rw [hc] at hempty
        obtain rfl := NodeContent.sequence.inj hempty
        cases hentry
      let b₃ : Builder :=
        { b₂ with store := b₂.store.put f.container (.ordered (putKey k v es)) }
      exact (ih (b := b₃) hsub hnew (fun _ => hget) (h.advance hput)).imp
        fun _ _ => Fills.head hput

theorem pairItems_fills (hmake : Makes g mode make busy) (hf : f.filler = .pairs)
    (front rest : List Nat) (hc : (g.get f.node).content = .sequence (front ++ rest))
    {vs : List Value} (hvs : List.Forall₂ (fun m v => ∃ k w, v = .tuple [k, w] ∧
      g.Entered b m (k, w)) front vs)
    (hlast : rest = [] → b.store.get f.container = .list vs)
    (h : g.MayFill mode busy (f :: todo) b f.node) :
    Gives (pairItems make whole f.container rest vs) b fun _ b' => g.Fills mode todo f b b' := by
  induction rest generalizing b front vs with
  | nil =>
      refine .pure ⟨.refl h.underway, ?_⟩
      rw [hlast rfl, hf]
      exact ⟨front, by rw [hc, List.append_nil], hvs⟩
  | cons entry rest ih =>
      have hchild : g.Child f.node entry := .item (by rw [hc]; simp [NodeContent.items])
      refine .pairItems_cons fun p merged hp => ?_
      have hp := h.offers hp
      refine (hmake.inside h (.head hchild (.single (.key hp)))).imp fun k b₁ h₁ => ?_
      obtain ⟨hadv₁, hk⟩ := h₁
      refine (hmake.inside (h.advance hadv₁) (.head hchild (.single (.value hp)))).imp
        fun v b₂ h₂ => ?_
      obtain ⟨hadv₂, hv⟩ := h₂
      have hadv := hadv₁.trans hadv₂
      have hnew : List.Forall₂ (fun m v => ∃ k w, v = .tuple [k, w] ∧ g.Entered b₂ m (k, w))
          (front ++ [entry]) (vs ++ [.tuple [k, v]]) := by
        refine List.rel_append (hvs.imp ?_) (.cons ⟨k, v, rfl, p, hp, ?_, hv⟩ .nil)
        · rintro m w ⟨k', w', rfl, he⟩
          exact ⟨k', w', rfl, he.keeps hadv.keeps⟩
        · exact ⟨k, .refl, .inl (hk.mono hadv₂.keeps.value)⟩
      obtain ⟨hput, hget⟩ := hadv.put (c := .list (vs ++ [.tuple [k, v]])) fun hempty => by
        rw [hc] at hempty
        simp at hempty
      let b₃ : Builder :=
        { b₂ with store := b₂.store.put f.container (.list (vs ++ [.tuple [k, v]])) }
      exact (ih (b := b₃) (front ++ [entry]) (by rw [hc, List.append_assoc]; rfl)
        hnew (fun _ => hget) (h.advance hput)).imp fun _ _ => Fills.head hput

/-- A collection is filled with what its node asks for. -/
theorem fill_fills (hmake : Makes g mode make busy) (h : g.MayFill mode busy (f :: todo) b f.node) :
    Gives (fill mode make f) b fun _ b' => g.Fills mode todo f b b' := by
  obtain ⟨owner, hunder⟩ := h.underway
  -- sequences are never rewritten, so their items can be read from the graph as it was
  have hcontent : ∀ items, (b.graph.get f.node).content = .sequence items →
      (g.get f.node).content = .sequence items := by
    intro items hc
    rw [← hunder.graph.content, hc]
    rw [← hunder.graph.kind, hc]
    simp [NodeContent.kind]
  obtain ⟨hlt, howner⟩ := hunder.filling f List.mem_cons_self
  have hblank := hunder.blank f.container hlt
  rw [howner] at hblank
  refine .fill (fun items hf hc => ?_) (fun hf => ?_) (fun hf => ?_) (fun items hf hc => ?_)
    fun items hf hc => ?_
  · have hc := hcontent items hc
    refine (makeItems_given hmake items (fun i hi => .item (by rw [hc]; exact hi)) h).imp
      fun vs b₁ h₁ => ?_
    obtain ⟨hadv, hvs⟩ := h₁
    refine .put hadv (by rw [hf]; exact ⟨items, hc, hvs⟩) fun hempty => ?_
    rw [hc] at hempty
    obtain rfl := NodeContent.sequence.inj hempty
    cases hvs
    rw [hf]
    rfl
  · refine (mappingEntries_given hmake h).imp fun es b₁ h₁ => ?_
    obtain ⟨hadv, hkind, hes⟩ := h₁
    refine .put hadv (by rw [hf]; exact ⟨hkind, hes⟩) fun hempty => ?_
    rw [hempty] at hkind
    cases hkind
  · refine (mappingEntries_given hmake h).imp fun es b₁ h₁ => ?_
    obtain ⟨hadv, hkind, hes⟩ := h₁
    refine .put hadv ?_ fun hempty => ?_
    · rw [hf]
      refine ⟨hkind, fun k hk => ?_⟩
      obtain ⟨e, he, rfl⟩ := List.mem_map.mp hk
      exact ⟨e.2, hes e he⟩
    · rw [hempty] at hkind
      cases hkind
  · have hc := hcontent items hc
    refine orderedEntries_fills hmake hf hc items (List.Subset.refl _) (List.forall_mem_nil _)
      (fun hnil => ?_) h
    rw [hblank (by rw [hc, hnil]), hf]
    rfl
  · have hc := hcontent items hc
    refine pairItems_fills hmake hf [] items hc .nil (fun hnil => ?_) h
    rw [hblank (by rw [hc, hnil]), hf]
    rfl

end Collections

/-! ### Nodes -/

section Nodes

variable {g : Graph} {mode : BuildMode} {make : Maker} {busy : List Nat} {owner : Nat → Filling}
  {todo : List Filling} {b : Builder} {n : Nat}

/-- What making the value of a node does before the value is noted. -/
structure Graph.Made (g : Graph) (mode : BuildMode) (todo : List Filling) (n : Nat) (b : Builder)
    (v : Value) (b' : Builder) : Prop where
  underway : ∃ owner, g.Underway mode owner todo b' ∧ ((∃ t, g.HasText n t ∧ g.Reads mode n t v) ∨
    ∃ c, v = .ref c ∧ c < b'.store.containers.size ∧ (owner c).node = n)
  value : ∀ n v, b.value n = some v → b'.value n = some v
  busy : b'.busy = b.busy
  eager : b'.eager = b.eager
  left : b'.left ≤ b.left + 1

/-- What is read by the recipe for a node is read as the tag of the node asks for, or it is a text. -/
theorem Graph.Evolves.reads {g' : Graph} (h : g.Evolves mode.literalKeys g') {r : Recipe} {t : String}
    {v : Value} (hr : Recipe.ofTag? (g'.get n).tag = some r)
    (hv : r.read? mode.old n (g'.get n).start t = some v) : g.Reads mode n t v := by
  rcases h.tag n with htag | ⟨hkept, htag⟩
  · rw [htag] at hr
    rw [h.start] at hv
    exact .inl (Option.bind_eq_some_iff.mpr ⟨r, hr, hv⟩)
  · rw [htag] at hr
    obtain rfl : r = .text := (Option.some.inj hr).symm
    exact .inr ⟨hkept, (Option.some.inj hv).symm⟩

/-- The value of a node is read from its text, or a new container is made for it. -/
theorem makeNode_made (hmake : Makes g mode make busy) (h : g.Underway mode owner todo b)
    (hb : b.busy = busy) (hn : ∀ m ∈ b.busy, ReflTransGen g.Child m n)
    (hkey : b.eager = true → g.InKey n) :
    Gives (makeNode mode make n) b (g.Made mode todo n b) := by
  have htag : ∀ {filler}, Recipe.ofTag? (b.graph.get n).tag = some (.collection filler) →
      Recipe.ofTag? (g.get n).tag = some (.collection filler) := by
    intro filler hr
    rw [h.graph.tag_eq rfl fun htext => ?_]
    · exact hr
    · rw [htext] at hr
      cases hr
  refine .makeNode (fun r hr => ?_) (fun filler hr heager => ?_) fun filler hr _ => ?_
  · refine (scalarText_hasText h.graph _ n).imp fun t b₁ h₁ v hv => ?_
    obtain ⟨rfl, ht⟩ := h₁
    exact ⟨⟨owner, h, .inl ⟨t, ht, h.graph.reads hr hv⟩⟩, fun _ _ h => h, rfl, rfl, Nat.le_succ _⟩
  -- in a key the collection is filled at once, otherwise it waits among those pending
  · let f : Filling := ⟨filler, n, b.store.containers.size⟩
    have halloc := h.alloc (f := f) rfl (htag hr)
    have hfill : g.MayFill mode busy (f :: todo)
        { b with store := (b.store.add filler.initial).2 } n :=
      ⟨⟨_, halloc⟩, hb, hn, hkey, fun _ => heager⟩
    refine (fill_fills hmake hfill).imp fun _ b' hfills => ?_
    obtain ⟨owner', hunder, hlt, howner⟩ := hfills.done
    have hkeeps := hfills.advances.keeps
    exact ⟨⟨owner', hunder, .inr ⟨f.container, rfl, hlt, by rw [howner]⟩⟩, hkeeps.value,
      hkeeps.busy, hkeeps.eager, Nat.le_succ_of_le hkeeps.left⟩
  · let f : Filling := ⟨filler, n, b.store.containers.size⟩
    have hpost := (h.alloc (f := f) rfl (htag hr)).postpone
    refine ⟨⟨_, hpost, .inr ⟨f.container, rfl, ?_, ?_⟩⟩, fun _ _ h => h, rfl, rfl, ?_⟩
    · simp [f, Store.add]
    · rw [Function.update_self]
    · simp only [Builder.left, Array.size_push]
      omega

/-- Beyond the last node there is nothing to be made. -/
theorem makeNode_beyond (h : g.Evolves mode.literalKeys b.graph) (hn : ¬ n < g.nodes.size)
    {Q : Value → Builder → Prop} : Gives (makeNode mode make n) b Q := by
  have hnone : ∀ r, Recipe.ofTag? (b.graph.get n).tag ≠ some r := fun r hr =>
    hn (h.size ▸ Graph.lt_of_recipe hr)
  exact .makeNode (fun r hr => absurd hr (hnone r)) (fun _ hr => absurd hr (hnone _))
    fun _ hr => absurd hr (hnone _)

/-- A node that has been made gets its value. -/
theorem Graph.Made.note {b' : Builder} {v : Value} {eager₀ eager : Bool}
    (h : g.Made mode todo n { b with eager := eager₀, busy := n :: b.busy } v b')
    (heager : (if eager then b.eager else eager₀) = b.eager) :
    g.Advances mode todo b (b'.note n v (if eager then b.eager else b'.eager)) ∧
      g.Given (b'.note n v (if eager then b.eager else b'.eager)) n v := by
  obtain ⟨owner', hunder, hv⟩ := h.underway
  obtain ⟨hlt, hnone⟩ := hunder.busy n (by rw [h.busy]; exact List.mem_cons_self)
  have hbuilt : n < b'.built.size := hunder.size ▸ hlt
  refine ⟨⟨⟨owner', hunder.note hlt hnone hv _⟩, fun m w hw => ?_, ?_, ?_, ?_⟩, .inl ?_⟩
  · exact Builder.value_note_of_some v _ hbuilt hnone (h.value m w hw)
  · simp only [Builder.note, h.busy, List.erase_cons_head]
  · simp only [Builder.note, h.eager]
    exact heager
  · have hleft := Builder.left_note v (if eager then b.eager else b'.eager) hbuilt hnone
    have : b'.left ≤ b.left + 1 := h.left
    omega
  · rw [Builder.value_note v _ hbuilt, if_pos rfl]

/-- Every node is made, whatever lies inside it. -/
theorem make_makes (depth : Nat) (busy : List Nat) : Makes g mode (Build.make mode depth) busy := by
  induction depth generalizing busy with
  | zero => exact fun _ _ _ _ _ _ _ _ => .throw
  | succ depth ih =>
      rintro todo b n eager ⟨owner, h⟩ hb hn hkey
      have hinKey : (eager || b.eager) = true → g.InKey n := by
        intro he
        rcases Bool.or_eq_true_iff.mp he with he | he
        · exact ⟨n, hkey he, .refl⟩
        · exact hn.inKey he
      have heager : (if eager then b.eager else eager || b.eager) = b.eager := by
        cases eager <;> rfl
      refine .make_succ (fun v hv => ⟨.refl ⟨owner, h⟩, .inl hv⟩) (fun _ hmem => ?_)
        fun hv hmem => ?_
      · -- the node is met again inside itself
        have hne := List.ne_nil_of_mem hmem
        rw [hn.eager hne, Bool.or_true, ← hn.eager hne]
        exact ⟨.refl ⟨owner, h⟩, .inr ⟨rfl, hn.busy n hmem, hn.inKey (hn.eager hne)⟩⟩
      · -- a number beyond the graph is no node, and has no tag to read it by
        by_cases hlt : n < g.nodes.size
        · refine (makeNode_made (ih (n :: busy)) ((h.eager (eager || b.eager)).begin hlt hv hmem)
            (by simp [hb]) (fun m hm => ?_) hinKey).imp fun v b' hmade => ?_
          · rcases List.mem_cons.mp hm with rfl | hm
            · exact .refl
            · exact (hn.busy m hm).to_reflTransGen
          · exact Graph.Made.note (b := b) hmade heager
        · refine makeNode_beyond ?_ hlt
          exact h.graph

/-- What is pending is filled in the end: a round that leaves anything pending made a node. -/
theorem fillRounds_given (hmake : Makes g mode make []) (fuel : Nat)
    (h : g.Underway mode owner [] b) (hb : b.busy = []) (heager : b.eager = false)
    (hfuel : b.pending = #[] ∨ b.built.toList.countP Option.isNone < fuel) :
    Gives (fillRounds mode make fuel) b fun _ b' =>
      (∃ owner, g.Underway mode owner [] b') ∧ b'.pending = #[] ∧
        ∀ n v, b.value n = some v → b'.value n = some v := by
  induction fuel generalizing owner b with
  | zero => exact .pure ⟨⟨owner, h⟩, hfuel.resolve_right (by simp), fun _ _ hv => hv⟩
  | succ fuel ih =>
      -- every filling that is added in this round belongs to a node made in it
      let b₀ : Builder := { b with pending := #[] }
      let I (rest : List Filling) (s : Builder) : Prop :=
        (∃ owner, g.Underway mode owner rest s) ∧ b₀.Keeps s
      refine .fillRounds_succ I (fun hnil => ⟨⟨owner, h⟩, hnil, fun _ _ hv => hv⟩)
        (fun _ => ⟨⟨owner, h.takeUp⟩, .refl b₀⟩) ?_ ?_
      · rintro f rest s ⟨⟨owner', hunder⟩, hkeeps⟩
        have hbusy : s.busy = [] := hkeeps.busy.trans hb
        have hs : s.eager = false := hkeeps.eager.trans heager
        have haround : g.Around (ReflTransGen g.Child) s f.node := by
          refine ⟨?_, ?_, ?_⟩
          · simp [hbusy]
          · simp [hs]
          · simp [hbusy]
        refine (fill_fills hmake ⟨⟨owner', hunder⟩, hbusy, haround⟩).imp fun _ s' hfills => ?_
        obtain ⟨owner'', hunder', -⟩ := hfills.done
        exact ⟨⟨owner'', hunder'⟩, hkeeps.trans hfills.advances.keeps⟩
      · rintro hne s ⟨⟨owner', hunder⟩, hkeeps⟩
        refine (ih hunder (hkeeps.busy.trans hb) (hkeeps.eager.trans heager) ?_).imp
          fun _ s' h' => ⟨h'.1, h'.2.1, fun n v hv => h'.2.2 n v (hkeeps.value n v hv)⟩
        have hleft : s.pending.size + s.built.toList.countP Option.isNone ≤
            b.built.toList.countP Option.isNone := by
          simpa [Builder.left, b₀] using hkeeps.left
        have hlt := hfuel.resolve_left hne
        rcases Nat.eq_zero_or_pos s.pending.size with hzero | hpos
        · exact .inl (Array.eq_empty_of_size_eq_zero hzero)
        · exact .inr (by omega)

/-- The value of a document stands for its root. -/
theorem document_stands (g : Graph) (mode : BuildMode) (root : Nat) :
    Gives (document mode root) { Builder.empty with graph := g } fun v b =>
      g.Stands mode b.store root v := by
  let b₀ := Builder.begin g
  have hvalue : ∀ n, b₀.value n = none := Builder.value_begin g
  have hunder : g.Underway mode (fun _ => default) [] b₀ := by
    refine ⟨.refl _ _, Builder.size_built_begin g, fun n v hv => ?_, ?_, ?_, ?_, ?_, ?_,
      List.nodup_nil⟩
    · cases (hvalue n).symm.trans hv
    all_goals simp [b₀, Builder.begin, Builder.empty, Store.empty]
  have haround : g.Around (TransGen g.Child) b₀ root := by
    refine ⟨?_, ?_, ?_⟩
    all_goals simp [b₀, Builder.begin, Builder.empty]
  refine .document fun depth => ?_
  have hmake : Makes g mode (Build.make mode depth) [] := make_makes depth []
  refine (hmake _ b₀ root false ⟨_, hunder⟩ rfl haround
    (absurd · Bool.false_ne_true)).imp fun v b₁ h₁ => ?_
  obtain ⟨hadv, hv⟩ := h₁
  obtain ⟨owner₁, hunder₁⟩ := hadv.underway
  -- there are no more rounds than nodes
  have hfew : b₁.built.toList.countP Option.isNone < g.nodes.size + 2 := by
    have := List.countP_le_length (p := Option.isNone) (l := b₁.built.toList)
    rw [Array.length_toList, hunder₁.size] at this
    omega
  refine (fillRounds_given hmake _ hunder₁ (hadv.keeps.busy.trans rfl)
    (hadv.keeps.eager.trans rfl) (.inr hfew)).imp fun _ b₂ h₂ => ?_
  obtain ⟨⟨owner₂, hunder₂⟩, hpending, hvalues⟩ := h₂
  exact hunder₂.stands hpending (hv.mono hvalues)

end Nodes

namespace ValueReader

/-- The value of a text stands for the root of its graph. -/
theorem read_stands {r : ValueReader} (hr : r.builder = .empty) {literalKeys : Bool}
    {source : List Char} {data : Datum} (h : (r.read literalKeys source).1 = .ok data) :
    ∃ a, (Graph.empty.read r.version source).result = .ok a ∧ ∀ root, a.root = some root →
      a.graph.Stands (r.mode literalKeys source) data.store root data.value := by
  obtain ⟨a, ha, -, hbuilt⟩ := read_eq_ok hr h
  refine ⟨a, ha, fun root hroot => ?_⟩
  obtain ⟨b, hbuild, hstore⟩ := hbuilt root hroot
  exact hstore ▸ document_stands a.graph _ root _ b hbuild

end ValueReader

end YamlAudit.Yaml
