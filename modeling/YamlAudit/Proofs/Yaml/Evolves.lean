import Mathlib.Logic.Relation
import YamlAudit.Proofs.Yaml.Builds

/-!
# Yaml — what becomes of a graph

While values are built from a graph, merge keys are resolved and some keys become texts.  What
`Graph.Evolves` says of this is told by the graph as it was at first.

* `Graph.Offers`: a mapping has the pairs written in it and those that its merge keys bring.
* `Graph.KeptAsText`: the nodes that become texts are keys.
* `flatten_evolves`, `keepKeys_evolves`: this is all that merging and keeping keys do.
* `scalarText_hasText`: the text of a node can be told from the graph as it was (`Graph.HasText`).

Pairs are read from the graph as it is when a mapping is filled, and what is proved of values is
about the graph as it was read, so each step is told by the latter.  A key that is shared with a
value becomes a text in both places: it is one node.
-/

open Relation

namespace YamlAudit.Yaml

open Build

namespace NodeContent

/-- The pairs of a mapping, those included that came by merge keys. -/
def pairs : NodeContent → List (Nat × Nat)
  | mapping ps merged => merged.getD [] ++ ps
  | _ => []

/-- The items of a sequence. -/
def items : NodeContent → List Nat
  | sequence is => is
  | _ => []

theorem kind_of_mem_pairs {c : NodeContent} {p : Nat × Nat} (h : p ∈ c.pairs) :
    c.kind = .mapping := by
  cases c with
  | mapping => rfl
  | _ => cases h

theorem kind_of_mem_items {c : NodeContent} {n : Nat} (h : n ∈ c.items) : c.kind = .sequence := by
  cases c with
  | sequence => rfl
  | _ => cases h

end NodeContent

namespace Graph

/-- A node is a key of a mapping. -/
def IsKey (g : Graph) (k : Nat) : Prop := ∃ n, ∃ p ∈ (g.get n).content.pairs, p.1 = k

/-- A mapping has a pair: it is written in it, or a merge key brings it. -/
inductive Offers (g : Graph) : Nat → Nat × Nat → Prop
  | own {n p} : p ∈ (g.get n).content.pairs → g.Offers n p
  | merged {n q source p} : g.Offers n q → (g.get q.1).tag = ScalarType.merge.tag →
      (source = q.2 ∨ source ∈ (g.get q.2).content.items) → g.Offers source p → g.Offers n p

/-- A node that may become a text because it is a key: one written in place of a value, or any scalar
where keys are kept as they are written. -/
def KeptAsText (g : Graph) (literalKeys : Bool) (n : Nat) : Prop :=
  g.IsKey n ∧ ((g.get n).tag = ScalarType.value.tag ∨
    literalKeys = true ∧ (g.get n).content.kind = .scalar)

/-- What becomes of a graph: a mapping has no pairs but those it had or was to be given by merge keys,
and some keys have become texts. -/
structure Evolves (g : Graph) (literalKeys : Bool) (g' : Graph) : Prop where
  size : g'.nodes.size = g.nodes.size
  start : ∀ n, (g'.get n).start = (g.get n).start
  kind : ∀ n, (g'.get n).content.kind = (g.get n).content.kind
  content : ∀ n, (g.get n).content.kind ≠ .mapping → (g'.get n).content = (g.get n).content
  pairs : ∀ n, ∀ p ∈ (g'.get n).content.pairs, g.Offers n p
  tag : ∀ n, (g'.get n).tag = (g.get n).tag ∨
    g.KeptAsText literalKeys n ∧ (g'.get n).tag = ScalarType.text.tag

/-- A node that is put counts in its place only, if there is such a place. -/
theorem get_put (g : Graph) (n k : Nat) (node : GraphNode) :
    (g.put n node).get k = if k = n ∧ n < g.nodes.size then node else g.get k := by
  simp only [put, get, Array.getD_eq_getD_getElem?, Array.getElem?_setIfInBounds]
  by_cases hk : k = n
  · subst hk
    by_cases hlt : k < g.nodes.size <;> simp [hlt]
  · simp [hk, Ne.symm hk]

/-- There are no nodes beyond the last. -/
theorem lt_of_recipe {g : Graph} {n : Nat} {r : Recipe}
    (h : Recipe.ofTag? (g.get n).tag = some r) : n < g.nodes.size := by
  refine Nat.lt_of_not_le fun hle => ?_
  have hget : g.get n = default := by simp [get, Array.getD, Nat.not_lt.mpr hle]
  rw [hget] at h
  cases h

variable {g g' : Graph} {literalKeys : Bool} {n : Nat}

/-- Only mappings have pairs, by themselves or by a merge. -/
theorem Offers.kind {p : Nat × Nat} (h : g.Offers n p) : (g.get n).content.kind = .mapping := by
  induction h with
  | own hp => exact NodeContent.kind_of_mem_pairs hp
  | merged _ _ _ _ ih _ => exact ih

/-- The key of a pair is written as a key somewhere, be it in the mapping that brings it. -/
theorem Offers.isKey {p : Nat × Nat} (h : g.Offers n p) : g.IsKey p.1 := by
  induction h with
  | own hp => exact ⟨_, _, hp, rfl⟩
  | merged _ _ _ _ _ ih => exact ih

namespace Evolves

theorem refl (g : Graph) (literalKeys : Bool) : g.Evolves literalKeys g :=
  ⟨rfl, fun _ => rfl, fun _ => rfl, fun _ _ => rfl, fun _ _ h => .own h, fun _ => .inl rfl⟩

/-- A tag that is not that of texts was there from the beginning. -/
theorem tag_eq (h : g.Evolves literalKeys g') {tag : String} (ht : (g'.get n).tag = tag)
    (hne : tag ≠ ScalarType.text.tag) : (g.get n).tag = tag := by
  rcases h.tag n with htag | ⟨-, htag⟩
  · exact htag.symm.trans ht
  · exact absurd (ht.symm.trans htag) hne

/-- A key may become a text. -/
theorem setTag (h : g.Evolves literalKeys g') (hn : g.KeptAsText literalKeys n) :
    g.Evolves literalKeys (g'.setTag n ScalarType.text.tag) := by
  have hget : ∀ k, ((g'.setTag n ScalarType.text.tag).get k).start = (g'.get k).start ∧
      ((g'.setTag n ScalarType.text.tag).get k).content = (g'.get k).content := by
    intro k
    rw [get_setTag]
    split <;> exact ⟨rfl, rfl⟩
  constructor
  · simpa [Graph.setTag, put] using h.size
  · exact fun k => (hget k).1.trans (h.start k)
  · exact fun k => (congrArg NodeContent.kind (hget k).2).trans (h.kind k)
  · exact fun k hk => (hget k).2.trans (h.content k hk)
  · intro k p hp
    rw [(hget k).2] at hp
    exact h.pairs k p hp
  · intro k
    rw [get_setTag]
    split
    · next hk => exact .inr ⟨hk.1 ▸ hn, rfl⟩
    · exact h.tag k

/-- A mapping may be given pairs that it was to have. -/
theorem setPairs (h : g.Evolves literalKeys g') {ps : List (Nat × Nat)}
    {merged : Option (List (Nat × Nat))} (hn : (g.get n).content.kind = .mapping)
    (hps : ∀ p ∈ merged.getD [] ++ ps, g.Offers n p) :
    g.Evolves literalKeys (g'.setContent n (.mapping ps merged)) := by
  -- only the content of one node changes, and its kind stays
  have hget : ∀ k, ((g'.setContent n (.mapping ps merged)).get k) = g'.get k ∨
      k = n ∧ (g'.setContent n (.mapping ps merged)).get k =
        { g'.get n with content := .mapping ps merged } := by
    intro k
    rw [setContent, get_put]
    split
    · next hk => exact .inr ⟨hk.1, rfl⟩
    · exact .inl rfl
  constructor
  · simpa [setContent, put] using h.size
  · intro k
    rcases hget k with hk | ⟨rfl, hk⟩
    · rw [hk]
      exact h.start k
    · rw [hk]
      exact h.start k
  · intro k
    rcases hget k with hk | ⟨rfl, hk⟩
    · rw [hk]
      exact h.kind k
    · rw [hk]
      exact hn.symm
  · intro k hkind
    rcases hget k with hk | ⟨rfl, -⟩
    · rw [hk]
      exact h.content k hkind
    · exact absurd hn hkind
  · intro k p hp
    rcases hget k with hk | ⟨rfl, hk⟩
    · rw [hk] at hp
      exact h.pairs k p hp
    · rw [hk] at hp
      exact hps p hp
  · intro k
    rcases hget k with hk | ⟨rfl, hk⟩
    · rw [hk]
      exact h.tag k
    · rw [hk]
      exact h.tag k

end Evolves

end Graph

/-! ### Merging and keeping keys -/

section Merging

variable {g : Graph} {literalKeys : Bool} {b : Builder}

/-- Nothing but the graph of a builder has changed, and this as it may. -/
def Evolved (g : Graph) (literalKeys : Bool) (b b' : Builder) : Prop :=
  ∃ g', g.Evolves literalKeys g' ∧ b' = { b with graph := g' }

/-- One step after another is a step. -/
theorem Evolved.trans {b' b'' : Builder} (h : Evolved g literalKeys b b')
    (h' : Evolved g literalKeys b' b'') : Evolved g literalKeys b b'' := by
  obtain ⟨g', -, rfl⟩ := h
  obtain ⟨g'', hg'', rfl⟩ := h'
  exact ⟨g'', hg'', rfl⟩

theorem Evolved.graph {b' : Builder} (h : Evolved g literalKeys b b') :
    g.Evolves literalKeys b'.graph := by
  obtain ⟨g', hg', rfl⟩ := h
  exact hg'

/-- To do nothing is a step. -/
theorem Evolved.of_evolves (h : g.Evolves literalKeys b.graph) : Evolved g literalKeys b b :=
  ⟨b.graph, h, rfl⟩

/-- The pairs that a node has now are offered by it. -/
theorem pairsOf_offers (hb : g.Evolves literalKeys b.graph) (n : Nat) :
    Gives (pairsOf n) b fun ps b' => b' = b ∧ ∀ p ∈ ps, g.Offers n p := by
  refine .bind (.node ?_)
  split
  · next ps merged hc =>
    refine .pure ⟨rfl, fun p hp => hb.pairs n p ?_⟩
    rw [hc]
    exact List.mem_append_right _ hp
  · exact .pure ⟨rfl, fun _ h => nomatch h⟩

/-- A mapping may be given any pairs it has, by itself or by a merge. -/
theorem setPairs_evolves (hb : g.Evolves literalKeys b.graph) {n : Nat} {ps : List (Nat × Nat)}
    (hps : ∀ p ∈ ps, g.Offers n p) :
    Gives (setPairs n ps) b fun _ b' => Evolved g literalKeys b b' := by
  refine .bind (.node ?_)
  split
  · next old merged hc =>
    have hkind : (g.get n).content.kind = .mapping := by rw [← hb.kind, hc]; rfl
    refine .modify ⟨_, hb.setPairs hkind fun p hp => ?_, rfl⟩
    rcases List.mem_append.mp hp with hp | hp
    · exact hb.pairs n p (by rw [hc]; exact List.mem_append_left _ hp)
    · exact hps p hp
  · exact .pure (.of_evolves hb)

/-- What is known of the merging of one mapping. -/
def Merges (g : Graph) (literalKeys : Bool) (flatten : Nat → Build Unit) : Prop :=
  ∀ b n, g.Evolves literalKeys b.graph →
    Gives (flatten n) b fun _ b' => Evolved g literalKeys b b'

variable {flatten : Nat → Build Unit}

/-- A list that is merged brings the pairs of its items. -/
theorem mergeItems_offers (hflatten : Merges g literalKeys flatten) (whole : Mark)
    (hb : g.Evolves literalKeys b.graph) (items : List Nat) :
    Gives (mergeItems flatten whole items) b fun ps b' => Evolved g literalKeys b b' ∧
      ∀ p ∈ ps, ∃ source ∈ items, g.Offers source p := by
  induction items generalizing b with
  | nil => exact .pure ⟨.of_evolves hb, fun _ h => nomatch h⟩
  | cons item rest ih =>
      refine .bind (.node ?_)
      split
      · refine .bind ((hflatten b item hb).imp fun _ b₁ h₁ => ?_)
        refine .bind ((pairsOf_offers h₁.graph item).imp fun ps b₂ h₂ => ?_)
        obtain ⟨rfl, hps⟩ := h₂
        refine .bind ((ih h₁.graph).imp fun qs b₃ h₃ => .pure ⟨h₁.trans h₃.1, fun p hp => ?_⟩)
        rcases List.mem_append.mp hp with hp | hp
        · obtain ⟨source, hsource, hp⟩ := h₃.2 p hp
          exact ⟨source, List.mem_cons_of_mem _ hsource, hp⟩
        · exact ⟨item, List.mem_cons_self, hps p hp⟩
      · exact .throw

/-- What a merge key brings comes from the mapping that is its value, or from one in it. -/
theorem mergeValue_offers (hflatten : Merges g literalKeys flatten) (whole : Mark)
    (hb : g.Evolves literalKeys b.graph) (value : Nat) :
    Gives (mergeValue flatten whole value) b fun ps b' => Evolved g literalKeys b b' ∧
      ∀ p ∈ ps, ∃ source, (source = value ∨ source ∈ (g.get value).content.items) ∧
        g.Offers source p := by
  refine .bind (.node ?_)
  split
  · refine .bind ((hflatten b value hb).imp fun _ b₁ h₁ => ?_)
    refine (pairsOf_offers h₁.graph value).imp fun ps b₂ h₂ => ?_
    obtain ⟨rfl, hps⟩ := h₂
    exact ⟨h₁, fun p hp => ⟨value, .inl rfl, hps p hp⟩⟩
  · next items hc =>
    have hkind : (g.get value).content.kind ≠ .mapping := by
      rw [← hb.kind, hc]
      simp [NodeContent.kind]
    rw [hb.content value hkind] at hc
    refine (mergeItems_offers hflatten whole hb items).imp fun ps b' h => ⟨h.1, fun p hp => ?_⟩
    obtain ⟨source, hsource, hp⟩ := h.2 p hp
    exact ⟨source, .inr (by rw [hc]; exact hsource), hp⟩
  · exact .throw

/-- What merge keys bring are pairs of the mapping they stand in. -/
theorem takeMerges_offers (hflatten : Merges g literalKeys flatten) (n fuel index : Nat)
    {merged : List (Nat × Nat)} (hmerged : ∀ p ∈ merged, g.Offers n p)
    (hb : g.Evolves literalKeys b.graph) :
    Gives (takeMerges flatten n fuel index merged) b fun ps b' => Evolved g literalKeys b b' ∧
      ∀ p ∈ ps, g.Offers n p := by
  -- by induction on the fuel, with the pairs that have been merged in so far general
  induction fuel generalizing index merged b with
  | zero => exact .pure ⟨.of_evolves hb, hmerged⟩
  | succ fuel ih =>
      refine .bind ((pairsOf_offers hb n).imp fun ps b₁ h₁ => ?_)
      obtain ⟨rfl, hps⟩ := h₁
      split
      · exact .pure ⟨.of_evolves hb, hmerged⟩
      · next key value hq =>
        have hoffers := hps _ (List.mem_of_getElem? hq)
        refine .bind (.node (.ite (fun ht => ?_) fun _ => .ite (fun ht => ?_) fun _ => ?_))
        · -- a merge key was one in the graph as it was read: no key becomes one later
          have htag := hb.tag_eq (beq_iff_eq.mp ht) (by decide)
          refine .bind (.node (.ite (fun _ => .bind .throw) fun _ => ?_))
          refine .bind ((setPairs_evolves hb fun p hp => hps p (List.mem_of_mem_eraseIdx hp)).imp
            fun _ b₂ h₂ => ?_)
          refine .bind ((mergeValue_offers hflatten _ h₂.graph value).imp fun qs b₃ h₃ => ?_)
          refine (ih index (fun p hp => ?_) h₃.1.graph).imp fun rs b₄ h₄ =>
            ⟨(h₂.trans h₃.1).trans h₄.1, h₄.2⟩
          rcases List.mem_append.mp hp with hp | hp
          · exact hmerged p hp
          · obtain ⟨source, hsource, hp⟩ := h₃.2 p hp
            exact .merged hoffers htag hsource hp
        · have htag := hb.tag_eq (beq_iff_eq.mp ht) (by decide)
          have hset : Evolved g literalKeys b₁
              { b₁ with graph := b₁.graph.setTag key ScalarType.text.tag } :=
            ⟨_, hb.setTag ⟨hoffers.isKey, .inl htag⟩, rfl⟩
          refine .bind (.modify ((ih (index + 1) hmerged hset.graph).imp fun rs b₂ h₂ => ?_))
          exact ⟨hset.trans h₂.1, h₂.2⟩
        · exact ih (index + 1) hmerged hb

/-- Merging goes as deep as merge keys lead; this is by induction on how deep that may be. -/
theorem flatten_evolves (calls : Nat) : Merges g literalKeys (Build.flatten calls) := by
  induction calls with
  | zero => exact fun _ _ _ => .throw
  | succ calls ih =>
      intro b n hb
      refine .bind ((pairsOf_offers hb n).imp fun _ b₁ h₁ => ?_)
      obtain ⟨rfl, -⟩ := h₁
      refine .bind (.get (.bind ?_))
      refine (takeMerges_offers ih n _ 0 (List.forall_mem_nil _) hb).imp fun merged b₂ h₂ => ?_
      obtain ⟨hb₂, hmerged⟩ := h₂
      refine .ite (fun hne => ?_) fun _ => .pure hb₂
      refine .bind ((pairsOf_offers hb₂.graph n).imp fun ps b₃ h₃ => ?_)
      obtain ⟨rfl, hps⟩ := h₃
      -- only a mapping offers anything
      have hkind : (g.get n).content.kind = .mapping := by
        cases merged with
        | nil => simp at hne
        | cons p _ => exact (hmerged p List.mem_cons_self).kind
      refine .modify (hb₂.trans ⟨_, hb₂.graph.setPairs hkind fun p hp => ?_, rfl⟩)
      simp only [Option.getD_some, List.mem_append] at hp
      rcases hp with hp | hp | hp
      · exact hmerged p hp
      · exact hmerged p hp
      · exact hps p hp

/-- Keys that are scalars become texts. -/
theorem keepKeys_evolves (n : Nat) (hb : g.Evolves true b.graph) :
    Gives (keepKeys n) b fun _ b' => Evolved g true b b' := by
  refine .bind ((pairsOf_offers hb n).imp fun ps b₁ h₁ => ?_)
  obtain ⟨rfl, hps⟩ := h₁
  let I (rest : List (Nat × Nat)) (s : Builder) : Prop := Evolved g true b₁ s ∧ rest ⊆ ps
  refine .bind ((Gives.forIn I ⟨.of_evolves hb, List.Subset.refl _⟩ ?_).imp fun _ s hI =>
    .pure hI.1)
  rintro ⟨key, value⟩ rest s ⟨hs, hsub⟩
  obtain ⟨hmem, hsub⟩ := List.cons_subset.mp hsub
  refine .bind (.node ?_)
  split
  · next t hc =>
    have hkind : (g.get key).content.kind = .scalar := by
      rw [← hs.graph.kind, hc]
      rfl
    have hset := hs.graph.setTag ⟨(hps _ hmem).isKey, .inr ⟨rfl, hkind⟩⟩
    exact .bind (.modify (.pure ⟨rfl, hs.trans ⟨_, hset, rfl⟩, hsub⟩))
  · exact .pure ⟨rfl, hs, hsub⟩

/-- The entries of a mapping come of the pairs that it has when the graph has become what it may. -/
theorem mappingEntries_evolves {mode : BuildMode} {make : Maker} {n : Nat}
    {Q : List (Value × Value) → Builder → Prop} (hb : g.Evolves mode.literalKeys b.graph)
    (hplain : ∀ s pairs, Evolved g mode.literalKeys b s →
      (s.graph.get n).content = .mapping pairs none →
      Gives (makeEntries make (s.graph.get n) true pairs []) s Q)
    (hmerged : ∀ s pairs merged, Evolved g mode.literalKeys b s →
      (s.graph.get n).content = .mapping pairs (some merged) →
      Gives (makeEntries make (s.graph.get n) false merged []) s fun first s₁ =>
        Gives (makeEntries make (s.graph.get n) false pairs []) s₁ fun second s₂ =>
          Q (second.foldl (fun acc e => putKey e.1 e.2 acc) first) s₂) :
    Gives (mappingEntries mode make n) b Q := by
  refine .mappingEntries (fun _ => (flatten_evolves _ b n hb).imp fun _ b₁ h₁ =>
    ⟨fun hmode => ?_, fun _ => h₁⟩) hplain hmerged
  rw [hmode] at h₁ ⊢
  exact (keepKeys_evolves n h₁.graph).imp fun _ b₂ h₂ => h₁.trans h₂

end Merging

/-! ### Texts -/

namespace Graph

/-- The text of a mapping is that of the value written under `=`. -/
def Under (g : Graph) (n m : Nat) : Prop :=
  ∃ p, g.Offers n p ∧ (g.get p.1).tag = ScalarType.value.tag ∧ p.2 = m

/-- A node has a text.  A mapping whose text would have to be found inside itself has none. -/
inductive HasText (g : Graph) : Nat → String → Prop
  | scalar {n t} : (g.get n).content = .scalar t → g.HasText n t
  | under {n m t} : g.Under n m → g.HasText m t → g.HasText n t

/-- A scalar has no text but its own. -/
theorem HasText.eq_of_scalar {g : Graph} {n : Nat} {s t : String} (h : g.HasText n t)
    (hn : (g.get n).content = .scalar s) : t = s := by
  have hnone : ∀ m, ¬ g.Under n m := by
    rintro m ⟨p, hp, -⟩
    have hkind := hp.kind
    rw [hn] at hkind
    cases hkind
  cases h with
  | scalar h => exact NodeContent.scalar.inj (h.symm.trans hn)
  | under h => exact absurd h (hnone _)

end Graph

/-- What is found as the text of a node is one. -/
theorem scalarText_hasText {g : Graph} {literalKeys : Bool} {b : Builder}
    (hb : g.Evolves literalKeys b.graph) (calls n : Nat) :
    Gives (scalarText calls n) b fun t b' => b' = b ∧ g.HasText n t := by
  induction calls generalizing n with
  | zero => exact .throw
  | succ calls ih =>
      refine .bind (.node ?_)
      split
      · next t hc =>
        refine .pure ⟨rfl, .scalar ?_⟩
        rw [← hb.content n (by rw [← hb.kind, hc]; simp [NodeContent.kind])]
        exact hc
      · exact .wrongKind
      · next ps merged hc =>
        refine .bind (.get ?_)
        dsimp only
        split
        · next p hp =>
          have hmem : p ∈ (b.graph.get n).content.pairs := by
            rw [hc]
            exact List.mem_append_right _ (List.mem_of_find?_eq_some hp)
          have htag := List.find?_some hp
          have hunder : g.Under n p.2 :=
            ⟨p, hb.pairs n p hmem, hb.tag_eq (beq_iff_eq.mp htag) (by decide), rfl⟩
          exact (ih p.2).imp fun _ _ h => ⟨h.1, .under hunder h.2⟩
        · exact .wrongKind

end YamlAudit.Yaml
