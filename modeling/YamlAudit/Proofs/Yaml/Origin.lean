import YamlAudit.Proofs.Yaml.Builds
import YamlAudit.Proofs.Yaml.Draws

/-!
# Yaml — a plan for a document

The graph that draws a document is a plan for its value: in an open document the rank of a spot,
which goes down from a spot to what its children stand for (`Spot.rank_home_lt`), makes a rank of
the numbers of nodes, since no two nodes have the same number (`Spot.number_inj`).

* `Graph.Of.sound`: the plan of an open document without merge keys is sound.

Open documents have a rank because an alias never lies in what it stands for.  Merge keys are left
out as they make the pairs of one mapping those of another, and the plan is told by the tree, where
each pair has its place.
-/

namespace YamlAudit

/-- A node as it comes from a text: it has a span, and an alias has no anchor. -/
def Node.IsWritten (n : Node) : Prop :=
  (∃ span, n.span = some span) ∧ (n.isAlias → n.anchor = none) ∧
    ∀ span anchor, n ≠ .bare span anchor

/-- What is written and no alias is a scalar or a collection. -/
theorem Node.IsWritten.cases {n : Node} (hw : n.IsWritten) (hna : n.isAlias = false) :
    (∃ span anchor value, n = .scalar span anchor value) ∨
      (∃ span anchor items, n = .sequence span anchor items) ∨
        ∃ span anchor pairs, n = .mapping span anchor pairs := by
  cases n with
  | scalar => exact .inl ⟨_, _, _, rfl⟩
  | sequence => exact .inr (.inl ⟨_, _, _, rfl⟩)
  | mapping => exact .inr (.inr ⟨_, _, _, rfl⟩)
  | «alias» => cases hna
  | bare span anchor => exact absurd rfl (hw.2.2 span anchor)

namespace Spot

variable {d : Node} {o a b : Spot}

/-- What a node from a text stands for is no alias. -/
theorem isAlias_home (hw : ∀ n ∈ d.nodes, n.IsWritten) (hs : d.Settled) (h : Inside (root d) o) :
    o.home.node.isAlias = false := by
  cases hr : o.referent with
  | some r =>
      rw [home_of_referent hr]
      exact h.isAlias_referent (fun n hn => (hw n hn).2.1) hr
  | none =>
      rw [home, hr, Option.getD_none]
      cases ha : o.node.isAlias with
      | false => rfl
      | true =>
          obtain ⟨r, hr'⟩ := hs o h ha
          rw [hr] at hr'
          cases hr'

/-! ### Numbers -/

theorem eq_of_before_length (ha : Inside (root d) a) (hb : Inside (root d) b)
    (h : a.before.length = b.before.length) : a = b := by
  obtain ⟨post, hpost⟩ := ha.before_append
  obtain ⟨post', hpost'⟩ := hb.before_append
  obtain ⟨below, hbelow⟩ := a.node.nodes_eq_cons
  obtain ⟨below', hbelow'⟩ := b.node.nodes_eq_cons
  rw [hpost, hbelow, hbelow', List.append_assoc, List.append_assoc] at hpost'
  obtain ⟨hbefore, hrest⟩ := List.append_inj hpost' h
  obtain ⟨before, node⟩ := a
  obtain ⟨before', node'⟩ := b
  obtain rfl : before = before' := hbefore
  obtain rfl : node = node' := (List.cons.inj hrest).1
  rfl

theorem number_lt (ha : Inside (root d) a) (hb : Inside (root d) b) (hna : a.node.isAlias = false)
    (h : a.before.length < b.before.length) : a.number < b.number := by
  rcases before_comparable ha hb with ⟨mid, hmid⟩ | ⟨mid, hmid⟩
  · rw [hmid, List.length_append] at h
    omega
  · simp only [number, hmid, List.countP_append, List.countP_cons, hna, Bool.not_false, if_true]
    omega

/-- No two nodes have the same number. -/
theorem number_inj (ha : Inside (root d) a) (hb : Inside (root d) b) (hna : a.node.isAlias = false)
    (hnb : b.node.isAlias = false) (h : a.number = b.number) : a = b := by
  rcases Nat.lt_trichotomy a.before.length b.before.length with hlt | heq | hlt
  · exact absurd h (Nat.ne_of_lt (number_lt ha hb hna hlt))
  · exact eq_of_before_length ha hb heq
  · exact absurd h.symm (Nat.ne_of_lt (number_lt hb ha hnb hlt))

/-- Every number of a node is had by a node. -/
theorem exists_number {n : Nat} (h : n < d.nodes.countP fun n => !n.isAlias) :
    ∃ o, Inside (root d) o ∧ o.node.isAlias = false ∧ o.number = n := by
  obtain ⟨pre, x, post, hd, hx, hn⟩ := split_of_lt_countP h
  refine ⟨⟨pre, x⟩, by simpa [root] using inside_of_nodes (a := root d) hd, by simpa using hx, hn⟩

/-! ### Ranks -/

/-- A number that goes down along the ways through an open document. -/
def rank (d : Node) (o : Spot) : Nat := o.stop * (d.nodes.length + 1) + o.node.nodes.length

theorem rank_lt_of_stop_lt (ha : Inside (root d) a) (h : a.stop < b.stop) :
    rank d a < rank d b := by
  have hlen : a.node.nodes.length ≤ d.nodes.length := by
    obtain ⟨post, hpost⟩ := ha.before_append
    rw [hpost]
    simp only [List.length_append]
    omega
  calc rank d a < (a.stop + 1) * (d.nodes.length + 1) := by
        rw [rank, Nat.add_mul, Nat.one_mul]
        omega
    _ ≤ b.stop * (d.nodes.length + 1) := Nat.mul_le_mul_right _ h
    _ ≤ rank d b := Nat.le_add_right _ _

/-- What a child stands for has a smaller rank. -/
theorem rank_home_lt (hopen : d.Open) {c : Spot} (ho : Inside (root d) o) (hc : c ∈ o.children) :
    rank d c.home < rank d o := by
  have hstop := stop_le_of_children hc
  cases hr : c.referent with
  | none =>
      rw [home, hr, Option.getD_none]
      obtain ⟨p, hp, rfl⟩ := mem_children_iff.mp hc
      have hlen := Node.length_nodes_part hp
      -- a child ends no later and is smaller
      have := Nat.mul_le_mul_right (d.nodes.length + 1) hstop
      simp only [rank] at this ⊢
      omega
  | some r =>
      rw [home_of_referent hr]
      -- a referent is over before its alias begins
      have h₁ := referent_stop_le hopen (ho.tail hc) hr
      have h₂ := c.before_length_lt_stop
      exact rank_lt_of_stop_lt ((ho.tail hc).referent hr) (by omega)

/-- The rank of the node with a number. -/
def rankAt (d : Node) (n : Nat) : Nat :=
  ((spots d).find? fun o => !o.node.isAlias && o.number == n).elim 0 (rank d)

theorem rankAt_number (h : Inside (root d) o) (hna : o.node.isAlias = false) :
    rankAt d o.number = rank d o := by
  unfold rankAt
  cases hf : (spots d).find? fun o' => !o'.node.isAlias && o'.number == o.number with
  | none =>
      have := List.find?_eq_none.mp hf o (mem_spots_iff.mpr h)
      simp [hna] at this
  | some o' =>
      have hin := mem_spots_iff.mp (List.mem_of_find?_eq_some hf)
      have hp := List.find?_some hf
      simp only [Bool.and_eq_true, Bool.not_eq_true', beq_iff_eq] at hp
      rw [number_inj hin h hp.1 hna hp.2]
      rfl

end Spot

namespace Yaml

/-- What is spelled is written. -/
theorem Spells.written {node : Node} {parts : List Markup} (h : Spells node parts) :
    ∀ n ∈ node.nodes, n.IsWritten := by
  -- items have to be written only where they are spelled, so the hypothesis is on the items at hand
  have hitems : ∀ {items : List Node} {parts : List Markup}, (∀ item ∈ items, ∀ {parts},
      Spells item parts → ∀ n ∈ item.nodes, n.IsWritten) → SpellsAll items parts →
      ∀ n ∈ Node.nodesOfItems items, n.IsWritten := by
    intro items
    induction items with
    | nil => intro _ _ _ n hn; cases hn
    | cons item rest ih =>
        intro parts hitem hs n hn
        cases hs with
        | cons h₁ h₂ =>
            rcases List.mem_append.mp hn with hn | hn
            · exact hitem item (by simp) h₁ n hn
            · exact ih (fun i hi => hitem i (by simp [hi])) h₂ n hn
  induction node using Node.induction generalizing parts with
  | scalar =>
      cases h
      intro n hn
      obtain rfl := List.mem_singleton.mp hn
      exact ⟨⟨_, rfl⟩, by simp [Node.isAlias], by simp⟩
  | «alias» =>
      cases h
      intro n hn
      obtain rfl := List.mem_singleton.mp hn
      exact ⟨⟨_, rfl⟩, fun _ => rfl, by simp⟩
  | bare => cases h
  | sequence span anchor items ih =>
      cases h with
      | sequence _ hall _ =>
          intro n hn
          rw [Node.nodes] at hn
          rcases List.mem_cons.mp hn with rfl | hn
          · exact ⟨⟨_, rfl⟩, by simp [Node.isAlias], by simp⟩
          · exact hitems ih hall n hn
  | mapping span anchor pairs ih =>
      cases h with
      | mapping _ hall _ =>
          intro n hn
          rw [Node.nodes, Node.nodesOfPairs_eq] at hn
          rcases List.mem_cons.mp hn with rfl | hn
          · exact ⟨⟨_, rfl⟩, by simp [Node.isAlias], by simp⟩
          · refine hitems (fun c hc => ?_) hall n hn
            obtain ⟨pair, hpair, hc⟩ := List.mem_flatMap.mp hc
            rcases List.mem_cons.mp hc with rfl | hc
            · exact (ih pair hpair).1
            · exact List.mem_singleton.mp hc ▸ (ih pair hpair).2

/-! ### The content of a drawn spot -/

namespace Graph

theorem pairUp_flatMap {α : Type} (f : α → Nat) (ps : List (α × α)) :
    Assembly.pairUp ((ps.flatMap fun p => [p.1, p.2]).map f) = ps.map fun p => (f p.1, f p.2) := by
  induction ps with
  | nil => rfl
  | cons p rest ih => simp [Assembly.pairUp, ih]

variable {T : TagRule} {g : Graph} {d : Node} {o : Spot}

theorem Draws.content_scalar (h : g.Draws o) {span : Option Span} {anchor : Option String}
    {value : String} (hn : o.node = .scalar span anchor value) :
    (g.get o.number).content = .scalar value := by
  unfold Draws at h
  rwa [hn] at h

theorem Draws.content_sequence (h : g.Draws o) {span : Option Span} {anchor : Option String}
    {items : List Node} (hn : o.node = .sequence span anchor items) :
    (g.get o.number).content = .sequence (o.children.map Spot.ref) := by
  unfold Draws at h
  rwa [hn] at h

theorem Draws.content_mapping (h : g.Draws o) {span : Option Span} {anchor : Option String}
    {pairs : List (Node × Node)} (hn : o.node = .mapping span anchor pairs) :
    (g.get o.number).content = .mapping (o.pairs.map fun p => (p.1.ref, p.2.ref)) none := by
  unfold Draws at h
  rw [hn] at h
  rw [h, Spot.children_eq_flatMap hn, pairUp_flatMap]

/-- The nodes inside the node of a spot are those of its values. -/
theorem Draws.values (h : g.Draws o) (hw : o.node.IsWritten) (hna : o.node.isAlias = false) :
    (g.get o.number).content.values = o.values.map Spot.ref := by
  rcases hw.cases hna with ⟨_, _, _, hn⟩ | ⟨_, _, _, hn⟩ | ⟨_, _, _, hn⟩
  · rw [h.content_scalar hn]
    simp [NodeContent.values, Spot.values, hn, Spot.children, Node.parts]
  · rw [h.content_sequence hn]
    simp [NodeContent.values, Spot.values, hn]
  · rw [h.content_mapping hn]
    simp [NodeContent.values, Spot.values, hn, Function.comp_def]

/-- The nodes that are keys in the node of a spot are those of its keys. -/
theorem Draws.keys (h : g.Draws o) (hw : o.node.IsWritten) (hna : o.node.isAlias = false) :
    (g.get o.number).content.keys = o.pairs.map fun p => p.1.ref := by
  rcases hw.cases hna with ⟨_, _, _, hn⟩ | ⟨_, _, _, hn⟩ | ⟨_, _, _, hn⟩
  · rw [h.content_scalar hn]
    simp [NodeContent.keys, Spot.pairs, hn, Node.pairs, Spot.rowOfPairs]
  · rw [h.content_sequence hn]
    simp [NodeContent.keys, Spot.pairs, hn, Node.pairs, Spot.rowOfPairs]
  · rw [h.content_mapping hn]
    simp [NodeContent.keys, Function.comp_def]

/-- The plan of a document whose graph it is. -/
def plan (g : Graph) (d : Node) (literal : Nat → Prop) : Plan := ⟨g, literal, Spot.rankAt d⟩

/-- A graph that draws a written document has nothing else in it. -/
structure Of (T : TagRule) (g : Graph) (d : Node) : Prop where
  draws : g.DrawsAll T (.root d)
  size : g.nodes.size = d.nodes.countP fun n => !n.isAlias
  written : ∀ n ∈ d.nodes, n.IsWritten

namespace Of

theorem settled (h : g.Of T d) : d.Settled := h.draws.settled

theorem isAlias_home (h : g.Of T d) (ho : Spot.Inside (.root d) o) : o.home.node.isAlias = false :=
  Spot.isAlias_home h.written h.settled ho

/-- What a spot stands for is in the graph. -/
theorem home_has (h : g.Of T d) (ho : Spot.Inside (.root d) o) : g.Has T o.home :=
  h.draws.has _ ho.home (h.isAlias_home ho)

/-- Every node of the graph is that of a spot. -/
theorem exists_spot (h : g.Of T d) {n : Nat} (hn : n < g.nodes.size) :
    ∃ o, Spot.Inside (.root d) o ∧ o.node.isAlias = false ∧ o.number = n :=
  Spot.exists_number (h.size ▸ hn)

/-- A spot and what it stands for have the same number, and no other spots have. -/
theorem home_eq (h : g.Of T d) {o' : Spot} (ho : Spot.Inside (.root d) o)
    (ho' : Spot.Inside (.root d) o') (heq : o.ref = o'.ref) : o.home = o'.home :=
  Spot.number_inj ho.home ho'.home (h.isAlias_home ho) (h.isAlias_home ho') heq

theorem rank_lt (h : g.Of T d) (hopen : d.Open) (ho : Spot.Inside (.root d) o)
    (hna : o.node.isAlias = false) {c : Spot} (hc : c ∈ o.children) :
    Spot.rankAt d c.ref < Spot.rankAt d o.number := by
  rw [Spot.rankAt_number ho hna,
    show c.ref = c.home.number from rfl, Spot.rankAt_number (ho.tail hc).home
      (h.isAlias_home (ho.tail hc))]
  exact Spot.rank_home_lt hopen ho hc

/-- The plan of an open document without merge keys is sound. -/
theorem sound (h : g.Of T d) (hopen : d.Open) {literal : Nat → Prop}
    (hscalar : ∀ k, literal k → (g.get k).content.kind = .scalar)
    (hvalues : ∀ o, Spot.Inside (.root d) o → ∀ v ∈ o.values, literal v.ref →
      (g.get v.ref).tag = ScalarType.text.tag)
    (hkeys : ∀ o, Spot.Inside (.root d) o → ∀ p ∈ o.pairs,
      (g.get p.1.ref).tag ≠ ScalarType.merge.tag ∧
        ((g.get p.1.ref).tag = ScalarType.value.tag → (g.get p.1.ref).content.kind = .scalar))
    (htags : ∀ anchor tag, T anchor .sequence tag →
      Build.Recipe.ofTag? tag ≠ some (.collection .ordered) ∧
      Build.Recipe.ofTag? tag ≠ some (.collection .pairs)) : (g.plan d literal).Sound where
  values n hn c hc := by
    -- every node of the graph is the number of a spot, so it is enough to look at spots
    obtain ⟨o, ho, hna, rfl⟩ := h.exists_spot hn
    have hdraws := (h.draws.has o ho hna).draws
    have hc : c ∈ (g.get o.number).content.values := hc
    rw [hdraws.values (h.written _ ho.mem_nodes) hna] at hc
    obtain ⟨v, hv, rfl⟩ := List.mem_map.mp hc
    have hchild := Spot.values_subset_children hv
    exact ⟨(h.home_has (ho.tail hchild)).bound, h.rank_lt hopen ho hna hchild, hvalues o ho v hv⟩
  keys n hn k hk := by
    obtain ⟨o, ho, hna, rfl⟩ := h.exists_spot hn
    have hdraws := (h.draws.has o ho hna).draws
    have hk : k ∈ (g.get o.number).content.keys := hk
    rw [hdraws.keys (h.written _ ho.mem_nodes) hna] at hk
    obtain ⟨p, hp, rfl⟩ := List.mem_map.mp hk
    have hchild := (Spot.pairs_mem_children hp).1
    exact ⟨(h.home_has (ho.tail hchild)).bound, h.rank_lt hopen ho hna hchild, hkeys o ho p hp⟩
  literal := hscalar
  unmerged n hn pairs merged hc := by
    obtain ⟨o, ho, hna, rfl⟩ := h.exists_spot hn
    have hdraws := (h.draws.has o ho hna).draws
    have hc : (g.get o.number).content = .mapping pairs merged := hc
    rcases (h.written _ ho.mem_nodes).cases hna with ⟨_, _, _, hn⟩ | ⟨_, _, _, hn⟩ | ⟨_, _, _, hn⟩
    · rw [hdraws.content_scalar hn] at hc; cases hc
    · rw [hdraws.content_sequence hn] at hc; cases hc
    · rw [hdraws.content_mapping hn] at hc
      cases hc
      rfl
  tags n hn hk := by
    obtain ⟨o, ho, hna, rfl⟩ := h.exists_spot hn
    have htagged := (h.draws.has o ho hna).tagged
    have hk : (g.get o.number).content.kind = .sequence := hk
    rw [hk] at htagged
    exact htags _ _ htagged

end Of

end Graph

end Yaml

end YamlAudit
