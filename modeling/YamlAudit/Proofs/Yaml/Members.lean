import YamlAudit.Proofs.Yaml.Spares

/-!
# Yaml — mappings whose pairs are written out

What becomes of a mapping without merge keys, from whatever graph, followed step by step: a container
is made for it (`make_mapping`), its pairs are gone through in their order
(`Gives.makeEntries_cons`), and a scalar among them is read as its tag asks for (`make_scalar`).
What is built afterwards spares it.

* `document_single`: the value of a document that is a mapping with one pair, where keys are kept as
  they are written.
* `document_nested`: the value of a document that is a mapping of two pairs, the first with a mapping
  of one pair, where keys have the types that their tags ask for.
-/

namespace YamlAudit.Yaml

open Build

variable {b : Builder} {mode : BuildMode} {make : Maker}

deriving instance DecidableEq for NodeContent

/-- A node is a scalar with a text and a type. -/
structure Graph.Types (g : Graph) (n : Nat) (type : ScalarType) (t : String) : Prop where
  content : (g.get n).content = .scalar t
  tag : (g.get n).tag = type.tag

instance (g : Graph) (n : Nat) (type : ScalarType) (t : String) : Decidable (g.Types n type t) :=
  decidable_of_iff ((g.get n).content = .scalar t ∧ (g.get n).tag = type.tag)
    ⟨fun h => ⟨h.1, h.2⟩, fun h => ⟨h.content, h.tag⟩⟩

namespace Graph.Types

variable {g : Graph} {n : Nat} {type : ScalarType} {t : String}

theorem plain (h : g.Types n type t) (filler : Filler) :
    Recipe.ofTag? (g.get n).tag ≠ some (.collection filler) := by
  rw [h.tag]
  cases type <;> nofun

theorem eq_text {old : Bool} {v : Value} (h : g.Types n .text t) (hv : g.typed? old n t = some v) :
    v = .text t := by
  rw [typed?, h.tag] at hv
  exact (Option.some.inj hv).symm

/-- What is read of a text, or of the sign for a value, is the text. -/
theorem reads_text (h : g.Types n type t) (htype : type = .text ∨ type = .value) {v : Value}
    (hv : g.Reads mode n t v) : v = .text t := by
  rcases hv with hv | ⟨-, hv⟩
  · rcases htype with rfl | rfl
    · exact h.eq_text hv
    · rw [typed?, h.tag] at hv
      cases hv
  · exact hv

/-- What is read of a scalar of another type is no text, unless keys are kept as they are written. -/
theorem reads_typed (h : g.Types n type t) (htext : type ≠ .text) (hvalue : type ≠ .value)
    (hmode : mode.literalKeys = false) {v : Value} (hv : g.Reads mode n t v) : v.IsTyped := by
  rcases hv with hv | ⟨⟨-, hkept | ⟨hliteral, -⟩⟩, -⟩
  · rw [typed?, h.tag] at hv
    cases type with
    | text => exact absurd rfl htext
    | value | merge | yaml => cases hv
    | null =>
        cases hv
        trivial
    | bool => exact readBool_isTyped (Except.toOption_eq_some.mp hv)
    | int => exact readInt_isTyped (Except.toOption_eq_some.mp hv)
    | float => exact readFloat_isTyped (Except.toOption_eq_some.mp hv)
    | timestamp => exact readTimestamp_isTyped (Except.toOption_eq_some.mp hv)
  · rw [h.tag] at hkept
    cases type with
    | value => exact absurd rfl hvalue
    | _ => exact absurd hkept (by decide)
  · cases hmode.symm.trans hliteral

theorem eq_bool {old : Bool} {v : Value} (h : g.Types n .bool t)
    (hv : g.typed? old n t = some v) : readBool t = .ok v := by
  rw [typed?, h.tag] at hv
  exact Except.toOption_eq_some.mp hv

end Graph.Types

/-- The nodes of a mapping with one pair, the key of which is a scalar with a type. -/
structure Graph.Single (g : Graph) (n : Nat) (type : ScalarType) (name : String) where
  key : Nat
  value : Nat
  isMapping : (g.get n).tag = mappingTag
  pair : (g.get n).content = .mapping [(key, value)] none
  isKey : g.Types key type name

theorem Gives.and {ε σ α : Type} {x : EStateM ε σ α} {s : σ} {Q R : α → σ → Prop}
    (hQ : Gives x s Q) (hR : Gives x s R) : Gives x s fun a s' => Q a s' ∧ R a s' :=
  fun a s' hx => ⟨hQ a s' hx, hR a s' hx⟩

/-! ### Nodes -/

/-- A node that has a value now. -/
def Builder.give (b : Builder) (n : Nat) (v : Value) : Builder :=
  { b with built := b.built.setIfInBounds n (some v) }

theorem Builder.value_give {n m : Nat} {v : Value} (hne : m ≠ n) :
    (b.give n v).value m = b.value m := by
  simp [Builder.value, give, Array.getD_eq_getD_getElem?, Ne.symm hne]

/-- A scalar is read as its tag asks for, and nothing else happens. -/
theorem makeNode_scalar {n : Nat} {t : String} (hc : (b.graph.get n).content = .scalar t)
    (hr : ∀ filler, Recipe.ofTag? (b.graph.get n).tag ≠ some (.collection filler)) :
    Gives (makeNode mode make n) b fun v b' =>
      b' = b ∧ b.graph.typed? mode.old n t = some v := by
  refine .makeNode (fun r hr => (Gives.scalarText _ n).imp fun s b' hs v hv => ?_)
    (fun filler hr' => absurd hr' (hr filler)) fun filler hr' => absurd hr' (hr filler)
  obtain ⟨rfl, hs⟩ := hs
  obtain rfl := hs.2 t hc
  exact ⟨rfl, Option.bind_eq_some_iff.mpr ⟨r, hr, hv⟩⟩

theorem make_scalar {fuel n : Nat} {eager : Bool} {t : String}
    (hc : (b.graph.get n).content = .scalar t)
    (hr : ∀ filler, Recipe.ofTag? (b.graph.get n).tag ≠ some (.collection filler))
    (hv : b.value n = none) (hbusy : n ∉ b.busy) :
    Gives (Build.make mode (fuel + 1) n eager) b fun v b' =>
      b.graph.typed? mode.old n t = some v ∧ b' = b.give n v := by
  let begun : Builder := { b with eager := eager || b.eager, busy := n :: b.busy }
  refine .make_succ (fun v hv' => nomatch hv.symm.trans hv') (fun _ hmem => absurd hmem hbusy)
    fun _ _ => (makeNode_scalar (b := begun) hc hr).imp fun v b' h => ?_
  obtain ⟨rfl, h⟩ := h
  refine ⟨h, ?_⟩
  cases eager <;> simp [begun, Builder.give, Builder.note]

/-- A mapping that is not in a key gets a container, which is filled later. -/
theorem make_mapping {fuel n : Nat} (htag : (b.graph.get n).tag = mappingTag)
    (hv : b.value n = none) (hbusy : n ∉ b.busy) (heager : b.eager = false) :
    Gives (Build.make mode (fuel + 1) n false) b fun v b' =>
      v = .ref b.store.containers.size ∧
      b' = Builder.give { b with
        store := (b.store.add (.mapping [])).2
        pending := b.pending.push ⟨.mapping, n, b.store.containers.size⟩ } n v := by
  refine .make_succ (fun v hv' => nomatch hv.symm.trans hv') (fun _ hmem => absurd hmem hbusy)
    fun _ _ => .makeNode (fun r hr => ?_) (fun filler _ he => ?_) fun filler hr _ => ?_
  · rw [htag] at hr
    cases hr
    exact (Gives.scalarText _ n).imp fun _ _ _ _ hv => nomatch hv
  · simp [heager] at he
  · rw [htag] at hr
    cases hr
    simp [Builder.give, Builder.note, Filler.initial, heager]

/-! ### Mappings -/

/-- What becomes of the tags of keys before the pairs of a mapping are gone through, the graph having
been `g₀` at first. -/
structure Graph.Prepares (g₀ g : Graph) (mode : BuildMode) (n : Nat) (g' : Graph) : Prop where
  retags : g.Retags g'
  evolves : g₀.Evolves mode.literalKeys g'
  literal : mode.literalKeys = true → ∀ k ∈ (g.get n).content.keys,
    (g.get k).content.kind = .scalar → (g'.get k).tag = ScalarType.text.tag

variable {n c : Nat} {pairs : List (Nat × Nat)}

/-- A mapping without merge keys is filled with the entries of its pairs. -/
theorem fill_mapping {g₀ : Graph} (hg₀ : g₀.Evolves mode.literalKeys b.graph)
    {Q : Unit → Builder → Prop} (hc : (b.graph.get n).content = .mapping pairs none)
    (hkeys : ∀ p ∈ pairs, p.1 < b.graph.nodes.size) (hunmerged : Unmerged b.graph n)
    (h : ∀ g, g₀.Prepares b.graph mode n g → ∀ whole,
      Gives (makeEntries make whole true pairs []) { b with graph := g } fun es b' =>
        Q () { b' with store := b'.store.put c (.mapping es) }) :
    Gives (fill mode make ⟨.mapping, n, c⟩) b Q := by
  have hkeys' : ∀ k ∈ (b.graph.get n).content.keys, k < b.graph.nodes.size := by
    intro k hk
    rw [hc] at hk
    obtain ⟨p, hp, rfl⟩ := List.mem_map.mp hk
    exact hkeys p hp
  refine .fill nofun (fun _ => ?_) nofun nofun nofun
  -- until the pairs are gone through only the graph changes, and no node its content
  refine .mappingEntries (P := fun s => ∃ g, g₀.Prepares b.graph mode n g ∧ s = { b with graph := g })
    (fun _ => ?_) ?_ ?_
  · have hflatten : ∀ fuel, Merges g₀ mode.literalKeys (flatten fuel) := flatten_evolves
    refine ((flatten_gives _ n hunmerged).and (hflatten _ b n hg₀)).imp fun _ b₁ h₁ => ?_
    obtain ⟨⟨g₁, hg₁, rfl⟩, hevolved⟩ := h₁
    refine ⟨fun hmode => ?_, fun hmode => ⟨g₁, ⟨hg₁, hevolved.graph, fun h => ?_⟩, rfl⟩⟩
    · have hkeep := keepKeys_gives (b := { b with graph := g₁ }) n fun k hk => by
        rw [hg₁.content n] at hk
        rw [hg₁.size]
        exact hkeys' k hk
      have hevolve := keepKeys_evolves (g := g₀) (b := { b with graph := g₁ }) n
        (hmode ▸ hevolved.graph)
      refine (hkeep.and hevolve).imp fun _ b₂ h₂ => ?_
      obtain ⟨⟨⟨g₂, hg₂, rfl⟩, htext⟩, hevolved₂⟩ := h₂
      refine ⟨g₂, ⟨hg₁.trans hg₂, ?_, fun _ k hk hscalar => ?_⟩, rfl⟩
      · rw [hmode]
        exact hevolved₂.graph
      · refine htext k (by rw [hg₁.content n]; exact hk) ?_
        rw [hg₁.content k]
        exact hscalar
    · cases h.symm.trans hmode
  · rintro _ pairs' ⟨g, hg, rfl⟩ hc'
    obtain ⟨rfl, -⟩ := NodeContent.mapping.inj (hc'.symm.trans ((hg.retags.content n).trans hc))
    exact h g hg _
  · rintro _ pairs' merged ⟨g, hg, rfl⟩ hc'
    cases hc'.symm.trans ((hg.retags.content n).trans hc)

/-- A key that is a scalar is what is made of its node. -/
theorem makeKey_scalar {fuel key : Nat} {t : String} {whole : GraphNode}
    (hc : (b.graph.get key).content = .scalar t)
    (hr : ∀ filler, Recipe.ofTag? (b.graph.get key).tag ≠ some (.collection filler))
    (hv : b.value key = none) (hbusy : key ∉ b.busy) :
    Gives (makeKey (Build.make mode (fuel + 1)) whole key) b fun k b' =>
      b.graph.typed? mode.old key t = some k ∧ b' = b.give key k := by
  refine .makeKey ((make_scalar hc hr hv hbusy).imp fun v b' h => ⟨h, ?_⟩)
  rintro c items rfl -
  have hreads : b.graph.Reads mode key t (.ref c) := .inl h.1
  exact hreads.isScalar.elim

theorem Graph.lt_of_tag {g : Graph} (h : (g.get n).tag ≠ "") : n < g.nodes.size := by
  refine Nat.lt_of_not_le fun hle => h ?_
  rw [show g.get n = default by simp [get, Array.getD, Nat.not_lt.mpr hle]]
  rfl

theorem Builder.Rests.write {x : Container} (h : b.Rests c x) (y : Container) :
    Builder.Rests { b with store := b.store.put c y } c y :=
  ⟨by simpa using h.lt, Store.get_put_self h.lt y, h.apart⟩

/-- A mapping with one pair, the key of which is a scalar, gets one entry. -/
theorem fill_single {g : Graph} (hg : g.Evolves mode.literalKeys b.graph) {fuel key value : Nat}
    {t : String} (hc : (b.graph.get n).content = .mapping [(key, value)] none)
    (hkey : (b.graph.get key).content = .scalar t) {type : ScalarType}
    (htype : (b.graph.get key).tag = type.tag) (hmerge : type ≠ .merge)
    (hv : b.value key = none) (hbusy : key ∉ b.busy) {x : Container} (h : b.Rests c x) :
    Gives (fill mode (Build.make mode (fuel + 1)) ⟨.mapping, n, c⟩) b fun _ b' => ∃ k v,
      g.Reads mode key t k ∧ (mode.literalKeys = true → k = .text t) ∧
      b'.Rests c (.mapping [(k, v)]) ∧ ∀ c' y, c' ≠ c → b.Rests c' y → b'.Rests c' y := by
  have hlt : key < b.graph.nodes.size := by
    refine Graph.lt_of_tag ?_
    rw [htype]
    cases type <;> decide
  -- the key is no merge key, so the pairs stay as they are written
  have hunmerged : Unmerged b.graph n := by
    intro k hk
    rw [hc] at hk
    obtain rfl := List.mem_singleton.mp hk
    refine ⟨?_, fun _ => by rw [hkey]; rfl⟩
    rw [htype]
    cases type <;> first | exact absurd rfl hmerge | decide
  have hkeys : ∀ p ∈ [(key, value)], p.1 < b.graph.nodes.size := by simpa using hlt
  refine fill_mapping hg hc hkeys hunmerged fun g' hg' whole => .makeEntries_cons ?_
  have hrecipe : ∀ filler, Recipe.ofTag? (g'.get key).tag ≠ some (.collection filler) := by
    intro filler
    rcases hg'.retags.tag key with htag | ⟨-, htag⟩
    · rw [htag, htype]
      cases type <;> nofun
    · rw [htag]
      nofun
  refine (makeKey_scalar (b := { b with graph := g' }) ((hg'.retags.content key).trans hkey) hrecipe
    hv hbusy).imp fun k b₁ h₁ => ?_
  obtain ⟨hk, rfl⟩ := h₁
  obtain ⟨r, hr, hread⟩ := Option.bind_eq_some_iff.mp hk
  have hreads : g.Reads mode key t k := hg'.evolves.reads hr hread
  -- where keys are kept, the key has become a text
  have hliteral : mode.literalKeys = true → k = .text t := by
    intro hmode
    have htag := hg'.literal hmode key (by rw [hc]; exact List.mem_singleton_self key)
      (by rw [hkey]; rfl)
    rw [Graph.typed?, htag] at hk
    exact (Option.some.inj hk).symm
  intro v b₂ hrun _
  -- building the value writes to no container that is at rest
  have hspares : ∀ c' y, b.Rests c' y → b₂.Rests c' y := by
    intro c' y hrests
    have hgiven : (Builder.give { b with graph := g' } key k).Rests c' y := hrests.congr rfl rfl
    exact make_spares mode _ _ value false c' y hgiven v b₂ hrun
  exact .pure ⟨k, v, hreads, hliteral, (hspares c x h).write _,
    fun c' y hne hrests => (hspares c' y hrests).put (Ne.symm hne) _⟩

/-! ### Documents -/

/-- A round with one collection to fill. -/
theorem fillRounds_singleton {fuel : Nat} {f : Filling} {Q : Unit → Builder → Prop}
    (hpending : b.pending = #[f])
    (h : Gives (fill mode make f) { b with pending := #[] } fun _ b' =>
      Gives (fillRounds mode make fuel) b' Q) :
    Gives (fillRounds mode make (fuel + 1)) b Q := by
  let I (rest : List Filling) (s : Builder) : Prop :=
    rest = [f] ∧ s = { b with pending := #[] } ∨
      rest = [] ∧ Gives (fillRounds mode make fuel) s Q
  refine .fillRounds_succ I (fun hnil => ?_) (fun _ => .inl ⟨by rw [hpending], rfl⟩) ?_
    fun _ s hI => (hI.resolve_left fun h => nomatch h.1).2
  · simp [hpending] at hnil
  · rintro f' rest s (⟨hrest, rfl⟩ | ⟨hrest, -⟩)
    · obtain ⟨rfl, rfl⟩ := List.cons.inj hrest
      exact h.imp fun _ s' hs' => .inr ⟨rfl, hs'⟩
    · cases hrest

/-- A builder that is about to fill the root of a document. -/
def Builder.opened (g : Graph) (root : Nat) : Builder :=
  Builder.give { Builder.begin g with store := ⟨#[.mapping []]⟩ } root (.ref 0)

theorem Builder.value_opened {g : Graph} {root n : Nat} (hne : n ≠ root) :
    (Builder.opened g root).value n = none :=
  (value_give hne).trans (value_begin g n)

/-- A document that is a mapping is filled in the first round. -/
theorem document_mapping {g : Graph} {root : Nat} {Q : Value → Builder → Prop}
    (htag : (g.get root).tag = mappingTag)
    (h : ∀ depth, Gives (fill mode (Build.make mode (depth + 1)) ⟨.mapping, root, 0⟩)
      (Builder.opened g root) fun _ b' =>
        Gives (fillRounds mode (Build.make mode (depth + 1)) (g.nodes.size + 1)) b'
          fun _ b'' => Q (.ref 0) b'') :
    Gives (document mode root) { Builder.empty with graph := g } Q := by
  refine .document fun depth => ?_
  cases depth with
  | zero => exact .throw
  | succ depth =>
      refine (make_mapping (b := Builder.begin g) htag (Builder.value_begin g root) (by simp
        [Builder.begin, Builder.empty]) rfl).imp fun v b₁ h₁ => ?_
      obtain ⟨rfl, rfl⟩ := h₁
      exact fillRounds_singleton rfl (h depth)

/-- The value of a document that is a mapping with one pair, where keys are kept as they are
written. -/
theorem document_single {g : Graph} {root : Nat} {name : String} {type : ScalarType}
    (S : g.Single root type name) (hmerge : type ≠ .merge) (hmode : mode.literalKeys = true) :
    Gives (document mode root) { Builder.empty with graph := g } fun v b => ∃ c x,
      v = .ref c ∧ c < b.store.containers.size ∧ b.store.get c = .mapping [(.text name, x)] := by
  have hne : S.key ≠ root := by
    intro heq
    have hpair := (congrArg (fun n => (g.get n).content) heq).trans S.pair
    cases S.isKey.content.symm.trans hpair
  have hrests : (Builder.opened g root).Rests 0 (.mapping []) :=
    ⟨Nat.one_pos, rfl, List.forall_mem_nil _⟩
  refine document_mapping S.isMapping fun _ => ((fill_single (g := g) (b := .opened g root) (.refl _ _)
    S.pair S.isKey.content S.isKey.tag hmerge (Builder.value_opened hne) nofun hrests).imp
    fun _ b₁ h₁ => ?_)
  obtain ⟨k, v, -, hk, hrests₁, -⟩ := h₁
  refine (fillRounds_spares (make_spares mode _) _ hrests₁).imp fun _ b₂ h₂ => ?_
  exact ⟨0, v, rfl, h₂.lt, hk hmode ▸ h₂.get⟩

/-- The entries of two pairs, the first with a mapping, which is filled later, and the second with a
truth value. -/
theorem makeEntries_nested {fuel k₁ m k₂ f : Nat} {t₁ t₂ t : String} {v : Bool} {whole : GraphNode}
    (h₁ : b.graph.Types k₁ .text t₁) (hm : (b.graph.get m).tag = mappingTag)
    (h₂ : b.graph.Types k₂ .text t₂) (hf : b.graph.Types f .bool t)
    (hv : readBool t = .ok (.bool v)) (hnodup : [k₁, m, k₂, f].Nodup)
    (hfresh : ∀ n ∈ [k₁, m, k₂, f], b.value n = none) (hbusy : b.busy = [])
    (heager : b.eager = false) :
    Gives (makeEntries (Build.make mode (fuel + 1)) whole true [(k₁, m), (k₂, f)] []) b fun es b' =>
      es = [(.text t₁, .ref b.store.containers.size), (.text t₂, .bool v)] ∧
      b'.graph = b.graph ∧ b'.store = (b.store.add (.mapping [])).2 ∧
      b'.pending = b.pending.push ⟨.mapping, m, b.store.containers.size⟩ ∧ b'.busy = [] ∧
      ∀ n ∉ [k₁, m, k₂, f], b'.value n = b.value n := by
  simp only [List.nodup_cons, List.mem_cons, List.not_mem_nil, or_false, not_or] at hnodup
  obtain ⟨⟨h1m, h12, h1f⟩, ⟨hm2, hmf⟩, h2f, -⟩ := hnodup
  simp only [List.forall_mem_cons] at hfresh
  obtain ⟨hn₁, hnm, hn₂, hnf, -⟩ := hfresh
  -- the first pair: a key, and a mapping that is to be filled
  refine .makeEntries_cons ((makeKey_scalar h₁.content h₁.plain hn₁ (by simp [hbusy])).imp
    fun k b₁ hb₁ => ?_)
  obtain ⟨hk, rfl⟩ := hb₁
  obtain rfl := h₁.eq_text hk
  refine (make_mapping (b := b.give k₁ _) hm ((Builder.value_give (Ne.symm h1m)).trans hnm)
    (by simp [Builder.give, hbusy]) heager).imp fun x b₂ hb₂ _ => ?_
  obtain ⟨rfl, hb₂⟩ := hb₂
  have hgraph : b₂.graph = b.graph := by rw [hb₂]; rfl
  have hbusy₂ : b₂.busy = [] := by rw [hb₂]; exact hbusy
  have hvalue : ∀ n, n ≠ k₁ → n ≠ m → b₂.value n = b.value n := by
    intro n h1 hm
    rw [hb₂]
    exact (Builder.value_give hm).trans (Builder.value_give h1)
  -- the second pair: a key, and a truth value
  rw [← hgraph] at h₂ hf
  refine .makeEntries_cons ((makeKey_scalar h₂.content h₂.plain
    ((hvalue k₂ (Ne.symm h12) (Ne.symm hm2)).trans hn₂) (by simp [hbusy₂])).imp fun k b₃ hb₃ => ?_)
  obtain ⟨hk, rfl⟩ := hb₃
  obtain rfl := h₂.eq_text hk
  refine (make_scalar (b := b₂.give k₂ _) hf.content hf.plain ((Builder.value_give
    (Ne.symm h2f)).trans ((hvalue f (Ne.symm h1f) (Ne.symm hmf)).trans hnf))
    (by simp [Builder.give, hbusy₂])).imp fun x b₄ hb₄ hnew => .pure ?_
  rw [putKey_of_lookupKey x (hnew rfl)]
  obtain ⟨hx, rfl⟩ := hb₄
  obtain rfl := Except.ok.inj ((hf.eq_bool hx).symm.trans hv)
  refine ⟨rfl, hgraph, ?_, ?_, hbusy₂, fun n hn => ?_⟩
  · simp only [Builder.give, hb₂]
  · simp only [Builder.give, hb₂]
  · simp only [List.mem_cons, List.not_mem_nil, or_false, not_or] at hn
    obtain ⟨h1, hm, h2, hf⟩ := hn
    exact (Builder.value_give hf).trans ((Builder.value_give h2).trans (hvalue n h1 hm))

/-- The nodes of a mapping of two pairs: the value of the first is a mapping of one pair, the key of
which is a scalar with a type, and the value of the second is false. -/
structure Graph.Nested (g : Graph) (root : Nat) (first second : String) (type : ScalarType)
    (name : String) where
  firstKey : Nat
  members : Nat
  secondKey : Nat
  flag : Nat
  isMapping : (g.get root).tag = mappingTag
  pairs : (g.get root).content = .mapping [(firstKey, members), (secondKey, flag)] none
  isFirst : g.Types firstKey .text first
  isSecond : g.Types secondKey .text second
  inner : g.Single members type name
  isFlag : ∃ t, g.Types flag .bool t ∧ readBool t = .ok (.bool false)
  /-- No scalar but the value is written in two places. -/
  nodup : [firstKey, secondKey, flag, inner.key].Nodup

namespace Graph.Nested

variable {g : Graph} {root : Nat} {first second name : String} {type : ScalarType}

/-- A builder that has filled the root and is about to fill the inner mapping. -/
structure Filled (N : g.Nested root first second type name) (b : Builder) : Prop where
  retags : g.Retags b.graph
  evolves : g.Evolves false b.graph
  store : b.store = ⟨#[.mapping [(.text first, .ref 1), (.text second, .bool false)], .mapping []]⟩
  pending : b.pending = #[⟨.mapping, N.members, 1⟩]
  busy : b.busy = []
  fresh : b.value N.inner.key = none

/-- A scalar is neither of the mappings. -/
theorem ne_mapping (N : g.Nested root first second type name) {n : Nat} {type' : ScalarType}
    {t : String} (h : g.Types n type' t) : n ≠ root ∧ n ≠ N.members := by
  refine ⟨?_, ?_⟩ <;> rintro rfl
  · cases h.content.symm.trans N.pairs
  · cases h.content.symm.trans N.inner.pair

theorem unmerged (N : g.Nested root first second type name) : Unmerged g root := by
  intro k hk
  rw [N.pairs] at hk
  obtain ⟨t, h⟩ : ∃ t, g.Types k .text t := by
    rcases List.mem_cons.mp hk with rfl | hk
    · exact ⟨_, N.isFirst⟩
    · obtain rfl := List.mem_singleton.mp hk
      exact ⟨_, N.isSecond⟩
  rw [h.tag, h.content]
  exact ⟨by decide, fun _ => rfl⟩

theorem fill_root (N : g.Nested root first second type name) (hmode : mode.literalKeys = false)
    {fuel : Nat} : Gives (fill mode (Build.make mode (fuel + 1)) ⟨.mapping, root, 0⟩)
      (Builder.opened g root) fun _ b' => N.Filled b' := by
  have hkeys : ∀ p ∈ [(N.firstKey, N.members), (N.secondKey, N.flag)], p.1 < g.nodes.size := by
    have hlt : ∀ {n t}, g.Types n .text t → n < g.nodes.size := fun h =>
      Graph.lt_of_tag (by rw [h.tag]; decide)
    simpa using ⟨hlt N.isFirst, hlt N.isSecond⟩
  refine fill_mapping (.refl _ _) N.pairs hkeys N.unmerged
    fun g' (hg' : g.Prepares g mode root g') whole => ?_
  obtain ⟨t, hflag, hfalse⟩ := N.isFlag
  -- texts and mappings keep their tags, and so does what is not a key
  have htext : ∀ {n t}, g.Types n .text t → g'.Types n .text t := fun h =>
    ⟨(hg'.retags.content _).trans h.content, hg'.retags.text h.tag⟩
  have hmembers : (g'.get N.members).tag = mappingTag := by
    rcases hg'.retags.tag N.members with htag | ⟨hkind, -⟩
    · exact htag.trans N.inner.isMapping
    · rw [N.inner.pair] at hkind
      cases hkind
  have hflag' : g'.Types N.flag .bool t := by
    refine ⟨(hg'.retags.content _).trans hflag.content, ?_⟩
    rcases hg'.evolves.tag N.flag with htag | ⟨⟨-, hvalue | ⟨hliteral, -⟩⟩, -⟩
    · exact htag.trans hflag.tag
    · exact absurd (hflag.tag.symm.trans hvalue) (by decide)
    · exact absurd (hmode.symm.trans hliteral) Bool.false_ne_true
  have hroot : N.members ≠ root := by
    intro heq
    have hpairs := (congrArg (fun n => (g.get n).content) heq).trans N.pairs
    exact absurd (N.inner.pair.symm.trans hpairs) (by simp)
  have hnodup := N.nodup
  simp only [List.nodup_cons, List.mem_cons, List.not_mem_nil, or_false, not_or] at hnodup
  obtain ⟨⟨hfs, hff, hfk⟩, ⟨hsf, hsk⟩, hfl, -⟩ := hnodup
  obtain ⟨hfr, hfm⟩ := N.ne_mapping N.isFirst
  obtain ⟨hsr, hsm⟩ := N.ne_mapping N.isSecond
  obtain ⟨hlr, hlm⟩ := N.ne_mapping hflag
  obtain ⟨hkr, hkm⟩ := N.ne_mapping N.inner.isKey
  refine (makeEntries_nested (b := { Builder.opened g root with graph := g' }) (htext N.isFirst)
    hmembers (htext N.isSecond) hflag' hfalse ?_ ?_ rfl rfl).imp fun es b' h => ?_
  · simp [hfm, hfs, hff, Ne.symm hsm, Ne.symm hlm, hsf]
  · simp only [List.forall_mem_cons]
    exact ⟨Builder.value_opened hfr, Builder.value_opened hroot, Builder.value_opened hsr,
      Builder.value_opened hlr, List.forall_mem_nil _⟩
  · obtain ⟨rfl, hgraph, hstore, hpending, hbusy, hvalue⟩ := h
    refine ⟨hgraph ▸ hg'.retags, hgraph ▸ hmode ▸ hg'.evolves, ?_, hpending, hbusy, ?_⟩
    · simp only [hstore]
      rfl
    · refine (hvalue N.inner.key ?_).trans (Builder.value_opened hkr)
      simp [Ne.symm hfk, hkm, Ne.symm hsk, Ne.symm hfl]

end Graph.Nested

/-- The value of a document that is a mapping of two pairs, the first with a mapping of one pair,
where keys have the types that their tags ask for. -/
theorem document_nested {g : Graph} {root : Nat} {first second name : String} {type : ScalarType}
    (N : g.Nested root first second type name) (hmerge : type ≠ .merge)
    (hmode : mode.literalKeys = false) :
    Gives (document mode root) { Builder.empty with graph := g } fun v b => ∃ c d k x,
      v = .ref c ∧
      b.store.get c = .mapping [(.text first, .ref d), (.text second, .bool false)] ∧
      b.store.get d = .mapping [(k, x)] ∧ g.Reads mode N.inner.key name k := by
  refine document_mapping N.isMapping fun depth => (N.fill_root hmode).imp fun _ b₁ h₁ => ?_
  let b₂ : Builder := { b₁ with pending := #[] }
  have houter : b₂.Rests 0 (.mapping [(.text first, .ref 1), (.text second, .bool false)]) :=
    ⟨by simp [b₂, h₁.store], by simp [b₂, h₁.store, Store.get], List.forall_mem_nil _⟩
  have hinner : b₂.Rests 1 (.mapping []) :=
    ⟨by simp [b₂, h₁.store], by simp [b₂, h₁.store, Store.get], List.forall_mem_nil _⟩
  have hcontent := h₁.retags.content
  obtain ⟨type', htype', hmerge'⟩ : ∃ type' : ScalarType,
      (b₁.graph.get N.inner.key).tag = type'.tag ∧ type' ≠ .merge := by
    rcases h₁.retags.tag N.inner.key with htag | ⟨-, htag⟩
    · exact ⟨type, htag.trans N.inner.isKey.tag, hmerge⟩
    · exact ⟨.text, htag, by decide⟩
  refine fillRounds_singleton h₁.pending ((fill_single (g := g) (b := b₂) (hmode ▸ h₁.evolves)
    ((hcontent _).trans N.inner.pair) ((hcontent _).trans N.inner.isKey.content) htype' hmerge' h₁.fresh
    (by simp [b₂, h₁.busy]) hinner).imp fun _ b₃ h₃ => ?_)
  obtain ⟨k, x, hreads, -, hinner₃, hothers⟩ := h₃
  have hspares := make_spares mode (depth + 1)
  refine ((fillRounds_spares hspares _ (hothers 0 _ Nat.zero_ne_one houter)).and
    (fillRounds_spares hspares _ hinner₃)).imp fun _ b₄ h₄ => ?_
  exact ⟨0, 1, k, x, rfl, h₄.1.get, h₄.2.get, hreads⟩

end YamlAudit.Yaml
