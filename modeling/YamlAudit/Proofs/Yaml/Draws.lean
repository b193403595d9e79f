import YamlAudit.Proofs.Document.Roles
import YamlAudit.Proofs.Yaml.Spells

/-!
# Yaml — graphs and the trees they draw

The graph of a text has a node for every node of its tree that is not an alias, numbered in document
order (`Spot.number`); where the tree has an alias the graph has the number of its referent
(`Spot.ref`).  So a text that has a graph is one whose aliases have referents.

* `Assembly.run_spells`: the parts of a tree, taken into account one after another, draw it.
* `SpellsDocument.draws`: the graph of a document draws its tree.

A node has its number from when it begins, and an alias has none, so the number of a spot is how
many nodes other than aliases begin before it.  That two aliases stand for one node is seen by their
having one number.
-/

namespace YamlAudit

namespace Spot

/-- How many nodes before a spot are no aliases. -/
def number (o : Spot) : Nat := o.before.countP fun n => !n.isAlias

/-- The number of what a spot stands for. -/
def ref (o : Spot) : Nat := (o.referent.getD o).number

theorem ref_of_not_isAlias {o : Spot} (h : o.node.isAlias = false) : o.ref = o.number :=
  congrArg number (home_of_not_isAlias h)

end Spot

namespace Yaml

/-- A node of a graph has the content of a spot. -/
def Graph.Draws (g : Graph) (o : Spot) : Prop :=
  match o.node with
  | .scalar _ _ value => (g.get o.number).content = .scalar value
  | .sequence .. => (g.get o.number).content = .sequence (o.children.map Spot.ref)
  | .mapping .. => (g.get o.number).content =
      .mapping (Assembly.pairUp (o.children.map Spot.ref)) none
  | _ => True

/-- What is asked of the tag of a node, given its anchor and its kind. -/
abbrev TagRule := Option String → NodeKind → String → Prop

/-- The tag of the node that begins with a part, if one does, obeys a rule. -/
def Markup.Tagged (T : TagRule) (m : Markup) : Prop :=
  match m.kind with
  | .scalar p untyped value => T p.anchor .scalar (Assembly.scalarTag m p untyped value)
  | .sequenceStart p => T p.anchor .sequence ((Assembly.writtenTag? p).getD sequenceTag)
  | .mappingStart p => T p.anchor .mapping ((Assembly.writtenTag? p).getD mappingTag)
  | _ => True

instance (T : TagRule) [∀ anchor kind tag, Decidable (T anchor kind tag)] (m : Markup) :
    Decidable (m.Tagged T) := by
  unfold Markup.Tagged
  split <;> infer_instance

/-- A graph has a node for a spot, with its content and a tag that obeys a rule. -/
structure Graph.Has (T : TagRule) (g : Graph) (o : Spot) : Prop where
  bound : o.number < g.nodes.size
  draws : g.Draws o
  tagged : T o.node.anchor (g.get o.number).content.kind (g.get o.number).tag

/-- A graph draws a tree: every alias in it has a referent, every other node is in the graph. -/
structure Graph.DrawsAll (T : TagRule) (g : Graph) (o : Spot) : Prop where
  settled : ∀ o', Spot.Inside o o' → o'.node.isAlias → ∃ r, o'.referent = some r
  has : ∀ o', Spot.Inside o o' → o'.node.isAlias = false → g.Has T o'

namespace Graph

theorem get_push_of_lt {g : Graph} {node : GraphNode} {n : Nat} (h : n < g.nodes.size) :
    get ⟨g.nodes.push node⟩ n = g.get n := by
  simp [get, Array.getD, h, Nat.lt_succ_of_lt h, Array.getElem_push_lt]

theorem get_push_self (g : Graph) (node : GraphNode) :
    get ⟨g.nodes.push node⟩ g.nodes.size = node := by
  simp [get, Array.getD]

theorem get_setContent_of_ne {g : Graph} {n k : Nat} (h : k ≠ n) (c : NodeContent) :
    (g.setContent n c).get k = g.get k := by
  simp [setContent, put, get, Array.getD_eq_getD_getElem?, Ne.symm h]

theorem get_setContent_self {g : Graph} {n : Nat} (h : n < g.nodes.size) (c : NodeContent) :
    (g.setContent n c).get n = { g.get n with content := c } := by
  simp [setContent, put, get, Array.getD_eq_getD_getElem?, h]

@[simp] theorem size_setContent (g : Graph) (n : Nat) (c : NodeContent) :
    (g.setContent n c).nodes.size = g.nodes.size := by
  simp [setContent, put]

variable {T : TagRule} {g g' : Graph} {o : Spot}

theorem Draws.congr (h : g.Draws o) (hg : g'.get o.number = g.get o.number) : g'.Draws o := by
  unfold Draws at h ⊢
  rwa [hg]

theorem Has.congr (h : g.Has T o) (hsize : g.nodes.size ≤ g'.nodes.size)
    (hg : g'.get o.number = g.get o.number) : g'.Has T o :=
  ⟨Nat.lt_of_lt_of_le h.bound hsize, h.draws.congr hg, by rw [hg]; exact h.tagged⟩

/-- A graph that keeps its nodes draws what it drew. -/
theorem DrawsAll.congr (h : g.DrawsAll T o) (hsize : g.nodes.size ≤ g'.nodes.size)
    (hg : ∀ n < g.nodes.size, o.number ≤ n → g'.get n = g.get n) : g'.DrawsAll T o where
  settled := h.settled
  has o' hin ha := by
    have := h.has o' hin ha
    refine this.congr hsize (hg _ this.bound ?_)
    obtain ⟨pre, post, hb, -⟩ := hin.split
    rw [Spot.number, Spot.number, hb, List.countP_append]
    exact Nat.le_add_right _ _

/-- A tree is drawn when its root and its children are. -/
theorem DrawsAll.of_children (hsettled : o.node.isAlias → ∃ r, o.referent = some r)
    (hhas : o.node.isAlias = false → g.Has T o) (h : ∀ c ∈ o.children, g.DrawsAll T c) :
    g.DrawsAll T o := by
  have hcases : ∀ o', Spot.Inside o o' → o' = o ∨ ∃ c ∈ o.children, Spot.Inside c o' := by
    intro o' hin
    rcases Relation.ReflTransGen.cases_head hin with rfl | ⟨c, hc, hin⟩
    · exact .inl rfl
    · exact .inr ⟨c, hc, hin⟩
  constructor
  · intro o' hin ha
    rcases hcases o' hin with rfl | ⟨c, hc, hin⟩
    · exact hsettled ha
    · exact (h c hc).settled o' hin ha
  · intro o' hin ha
    rcases hcases o' hin with rfl | ⟨c, hc, hin⟩
    · exact hhas ha
    · exact (h c hc).has o' hin ha

end Graph

/-! ### Putting a graph together -/

namespace Assembly

variable {T : TagRule} {a a' : Assembly} {before : List Node}

theorem run_cons_ok {m : Markup} {rest : List Markup} (h : a.run (m :: rest) = .ok a') :
    ∃ a₁, a.step m = .ok a₁ ∧ a₁.run rest = .ok a' := by
  rw [run] at h
  split at h
  · next a₁ ha => exact ⟨a₁, ha, h⟩
  · cases h

theorem run_append_ok {ps qs : List Markup} (h : a.run (ps ++ qs) = .ok a') :
    ∃ a₁, a.run ps = .ok a₁ ∧ a₁.run qs = .ok a' := by
  induction ps generalizing a with
  | nil => exact ⟨a, rfl, h⟩
  | cons m rest ih =>
      obtain ⟨a₁, h₁, h₂⟩ := run_cons_ok h
      obtain ⟨a₂, h₃, h₄⟩ := ih h₂
      exact ⟨a₂, by rw [run, h₁]; exact h₃, h₄⟩

/-- An assembly has taken some nodes into account. -/
structure Tracks (a : Assembly) (before : List Node) : Prop where
  size : a.graph.nodes.size = before.countP fun n => !n.isAlias
  anchors : ∀ name, a.anchors.lookup name = (Spot.lastCarrier name before).map Spot.number

/-- What taking the parts of some nodes into account does to an assembly, apart from its stack. -/
structure Adds (T : TagRule) (a a' : Assembly) (before nodes : List Node)
    (spots : List Spot) : Prop where
  tracks : a'.Tracks (before ++ nodes)
  kept : ∀ n < a.graph.nodes.size, a'.graph.get n = a.graph.get n
  draws : ∀ o ∈ spots, a'.graph.DrawsAll T o

theorem Adds.size_le {nodes : List Node} {spots : List Spot} (h : Adds T a a' before nodes spots)
    (ht : a.Tracks before) : a.graph.nodes.size ≤ a'.graph.nodes.size := by
  rw [ht.size, h.tracks.size, List.countP_append]
  exact Nat.le_add_right _ _

/-- A node that is added is tracked. -/
theorem Tracks.add (h : a.Tracks before) {node : Node} (hna : node.isAlias = false)
    (gn : GraphNode) : ((a.add node.anchor gn).2).Tracks (before ++ [node]) := by
  constructor
  · simp [Assembly.add, h.size, List.countP_append, hna]
  · intro name
    have hlast := Spot.lastCarrier_append name before [node]
    rw [hlast]
    by_cases hc : node.Carries name
    · have hone : Spot.lastCarrier name [node] = some ⟨[], node⟩ :=
        Spot.lastCarrier_eq_some.mpr ⟨[], rfl, hc, by simp⟩
      have hanchor : node.anchor = some name := hc
      simp [hone, Assembly.add, hanchor, Spot.number, h.size]
    · have hone : Spot.lastCarrier name [node] = none :=
        Spot.lastCarrier_eq_none.mpr (by simpa using hc)
      rw [hone]
      cases hanchor : node.anchor with
      | none => simpa [Assembly.add] using h.anchors name
      | some other =>
          have hne : (name == other) = false := by
            rw [beq_eq_false_iff_ne]
            rintro rfl
            exact hc hanchor
          simpa [Assembly.add, hanchor, List.lookup_cons, hne] using h.anchors name

/-- An assembly has got a finished node with a number. -/
def Gets (a a' : Assembly) (n : Nat) : Prop :=
  a'.stack = (a.place n).stack ∧ a'.root = (a.place n).root

theorem place_graph (a : Assembly) (n : Nat) : (a.place n).graph = a.graph := by
  unfold place
  split <;> rfl

theorem place_anchors (a : Assembly) (n : Nat) : (a.place n).anchors = a.anchors := by
  unfold place
  split <;> rfl

/-- What a finished node does to the stack and the root depends on them only. -/
theorem place_congr {a b : Assembly} (n : Nat) (hstack : a.stack = b.stack)
    (hroot : a.root = b.root) :
    (a.place n).stack = (b.place n).stack ∧ (a.place n).root = (b.place n).root := by
  rw [place, place, hstack, hroot]
  cases b.stack <;> exact ⟨rfl, rfl⟩

theorem Tracks.congr {b : Assembly} (h : a.Tracks before)
    (hsize : b.graph.nodes.size = a.graph.nodes.size) (hanchors : b.anchors = a.anchors) :
    b.Tracks before :=
  ⟨hsize.trans h.size, fun name => hanchors ▸ h.anchors name⟩

theorem number_le_children {o c : Spot} (hna : o.node.isAlias = false) (hc : c ∈ o.children) :
    o.number + 1 ≤ c.number := by
  obtain ⟨p, hp, rfl⟩ := Spot.mem_children_iff.mp hc
  obtain ⟨⟨mid, hmid⟩, -⟩ := Node.parts_prefix hp
  simp only [Spot.number, hmid, List.countP_append, List.countP_cons, hna]
  simp only [Bool.not_false, if_true]
  omega

/-- A node that is no alias is the next to be added. -/
theorem Tracks.ref (ht : a.Tracks before) {node : Node} (hna : node.isAlias = false) :
    Spot.ref ⟨before, node⟩ = a.graph.nodes.size := by
  have hnone : Spot.referent ⟨before, node⟩ = none := by
    cases node <;> first | rfl | cases hna
  rw [Spot.ref, hnone]
  exact ht.size.symm

/-- What is to be shown of the parts of a node. -/
def Goal (T : TagRule) (node : Node) : Prop :=
  ∀ {parts : List Markup} {a a' : Assembly} {before : List Node}, Spells node parts →
    (∀ m ∈ parts, m.Tagged T) → a.Tracks before → a.run parts = .ok a' →
    Adds T a a' before node.nodes [⟨before, node⟩] ∧ Gets a a' (Spot.ref ⟨before, node⟩)

/-- The parts of some nodes give an open collection so many children more. -/
theorem run_spellsAll {items : List Node} (ih : ∀ item ∈ items, Goal T item) :
    ∀ {parts : List Markup} {a a' : Assembly} {before : List Node} {top : OpenNode}
      {outer : List OpenNode}, SpellsAll items parts → (∀ m ∈ parts, m.Tagged T) →
      a.Tracks before → a.stack = top :: outer → a.run parts = .ok a' →
      Adds T a a' before (Node.nodesOfItems items) (Spot.row before items) ∧
        a'.stack = { top with
          children := ((Spot.row before items).map Spot.ref).reverse ++ top.children } :: outer ∧
        a'.root = a.root := by
  induction items with
  | nil =>
      intro parts a a' before top outer hs _ ht hstack h
      cases hs
      cases h
      exact ⟨⟨by simpa [Node.nodesOfItems] using ht, fun _ _ => rfl, by simp [Spot.row]⟩,
        by simp [Spot.row, hstack], rfl⟩
  | cons item rest ihr =>
      intro parts a a' before top outer hs htag ht hstack h
      cases hs with
      | cons hitem hrest =>
          obtain ⟨a₁, h₁, h₂⟩ := run_append_ok h
          obtain ⟨hadds, hgets⟩ := ih item (by simp) hitem (fun m hm => htag m (by simp [hm])) ht h₁
          rw [Gets, place, hstack] at hgets
          obtain ⟨hadds', hstack', hroot'⟩ := ihr (fun i hi => ih i (by simp [hi])) hrest
            (fun m hm => htag m (by simp [hm])) hadds.tracks hgets.1 h₂
          have hsize := hadds.size_le ht
          have hsize' := hadds'.size_le hadds.tracks
          -- later items add nodes behind those of earlier ones, so what these draw stays
          refine ⟨⟨by simpa [Node.nodesOfItems] using hadds'.tracks, fun n hn => ?_, ?_⟩, ?_, ?_⟩
          · rw [hadds'.kept n (Nat.lt_of_lt_of_le hn hsize), hadds.kept n hn]
          · intro o ho
            rcases List.mem_cons.mp ho with rfl | ho
            · exact (hadds.draws _ (by simp)).congr hsize' fun n hn _ => hadds'.kept n hn
            · exact hadds'.draws o ho
          · rw [hstack']
            simp [Spot.row]
          · rw [hroot', hgets.2]

/-- What is between the beginning of a collection and its end is run with the collection open. -/
theorem run_brackets_ok {m e : Markup} {p : Properties} {tag : String} {content : NodeContent}
    {fill : List Nat → NodeContent} {parts : List Markup} {a a' : Assembly}
    (hm : a.step m = .ok (a.enter m p tag content))
    (he : ∀ a : Assembly, a.step e = .ok (a.leave fill))
    (h : a.run (m :: parts ++ [e]) = .ok a') :
    ∃ a₁, (a.enter m p tag content).run parts = .ok a₁ ∧ a' = a₁.leave fill := by
  rw [List.cons_append] at h
  obtain ⟨a₀, h₀, hrun⟩ := run_cons_ok h
  obtain rfl := Except.ok.inj (hm.symm.trans h₀)
  obtain ⟨a₁, h₁, hlast⟩ := run_append_ok hrun
  obtain ⟨a₂, h₂, h₃⟩ := run_cons_ok hlast
  obtain rfl := Except.ok.inj ((he a₁).symm.trans h₂)
  cases h₃
  exact ⟨a₁, h₁, rfl⟩

/-- A collection that begins is tracked. -/
theorem Tracks.enter (h : a.Tracks before) {node : Node} (hna : node.isAlias = false)
    {p : Properties} (hanchor : node.anchor = p.anchor) (m : Markup) (tag : String)
    (content : NodeContent) : (a.enter m p tag content).Tracks (before ++ [node]) := by
  have hadd := h.add hna ⟨(writtenTag? p).getD tag, m.start, content⟩
  rw [hanchor] at hadd
  exact hadd.congr rfl rfl

/-- The parts of a collection whose children's parts do what they are to do. -/
theorem run_collection (node : Node) (p : Properties) (tag : String) (content : NodeContent)
    (fill : List Nat → NodeContent) (hna : node.isAlias = false)
    (ih : ∀ c ∈ node.children, Goal T c) {m e : Markup} {parts : List Markup}
    (hanchor : node.anchor = p.anchor)
    (hm : ∀ a : Assembly, a.step m = .ok (a.enter m p tag content))
    (he : ∀ a : Assembly, a.step e = .ok (a.leave fill)) (hs : SpellsAll node.children parts)
    (htag : ∀ x ∈ parts, x.Tagged T) {a a' : Assembly} {before : List Node}
    (hT : ∀ ns, T node.anchor (fill ns).kind ((writtenTag? p).getD tag))
    (hdraws : ∀ g : Graph, (g.get (Spot.number ⟨before, node⟩)).content =
      fill ((Spot.children ⟨before, node⟩).map Spot.ref) → g.Draws ⟨before, node⟩)
    (ht : a.Tracks before) (h : a.run (m :: parts ++ [e]) = .ok a') :
    Adds T a a' before node.nodes [⟨before, node⟩] ∧ Gets a a' (Spot.ref ⟨before, node⟩) := by
  have hnumber : Spot.number ⟨before, node⟩ = a.graph.nodes.size := ht.size.symm
  have href := ht.ref hna
  obtain ⟨a₂, h₂, rfl⟩ := run_brackets_ok (hm a) he h
  have ht₁ := ht.enter hna hanchor m tag content
  obtain ⟨hadds, hstack, hroot⟩ := run_spellsAll ih hs htag ht₁ rfl h₂
  have hchildren : Spot.children ⟨before, node⟩ = Spot.row (before ++ [node]) node.children :=
    Spot.children_eq_row _
  -- when the collection ends its content is set, and it is placed in what is around it
  have hleave : a₂.leave fill = place { a₂ with
      graph := a₂.graph.setContent a.graph.nodes.size
        (fill ((Spot.children ⟨before, node⟩).map Spot.ref))
      stack := a.stack } a.graph.nodes.size := by
    rw [leave, hstack, hchildren]
    simp
  rw [hleave]
  have hlt : a.graph.nodes.size < a₂.graph.nodes.size := by
    have := hadds.size_le ht₁
    simp only [enter, Assembly.add, Array.size_push] at this
    omega
  have htag₂ : (a₂.graph.get a.graph.nodes.size).tag = (writtenTag? p).getD tag := by
    rw [hadds.kept _ (by simp [enter, Assembly.add])]
    simp [enter, Assembly.add, Graph.get_push_self]
  -- setting the content touches no node but the collection, and its number comes before its
  -- children's
  refine ⟨⟨?_, fun n hn => ?_, fun o ho => ?_⟩, ?_⟩
  · rw [Node.nodes_eq]
    have := hadds.tracks
    rw [List.append_assoc] at this
    exact this.congr (by rw [place_graph]; exact Graph.size_setContent _ _ _) (place_anchors _ _)
  · rw [place_graph, Graph.get_setContent_of_ne (Nat.ne_of_lt hn), hadds.kept _ (by
      simp only [enter, Assembly.add, Array.size_push]; omega)]
    exact Graph.get_push_of_lt hn
  · obtain rfl := List.mem_singleton.mp ho
    rw [place_graph]
    refine .of_children (fun ha => absurd ha (by simp [hna])) (fun _ => ⟨?_, hdraws _ ?_, ?_⟩)
      fun c hc => ?_
    · rw [hnumber, Graph.size_setContent]; exact hlt
    · rw [hnumber, Graph.get_setContent_self hlt]
    · rw [hnumber, Graph.get_setContent_self hlt]
      simp only [htag₂]
      exact hT _
    · refine (hadds.draws c (hchildren ▸ hc)).congr (by simp) fun n _ hn => ?_
      have := number_le_children (o := ⟨before, node⟩) hna hc
      exact Graph.get_setContent_of_ne (by omega) _
  · rw [href]
    refine place_congr _ ?_ ?_
    · rfl
    · exact hroot

theorem goal_scalar (T : TagRule) (span : Option Span) (anchor : Option String) (value : String) :
    Goal T (.scalar span anchor value) := by
  intro parts a a' before hs htag ht h
  cases hs with
  | @scalar m p untyped _ hk =>
      obtain ⟨a₁, h₁, h₂⟩ := run_cons_ok h
      cases h₂
      -- one part adds one node, which comes last
      simp only [step, hk, Except.ok.injEq] at h₁
      subst h₁
      have hT := htag m (by simp)
      rw [Markup.Tagged, hk] at hT
      have ht₁ : Tracks _ (before ++ [.scalar (m.spanTo m) p.anchor value]) := ht.add rfl
        ⟨scalarTag m p untyped value, m.start, .scalar value⟩
      refine ⟨⟨ht₁.congr (by rw [place_graph]; rfl) (place_anchors _ _), fun n hn => ?_,
        fun o ho => ?_⟩, ?_⟩
      · rw [place_graph]
        exact Graph.get_push_of_lt hn
      · obtain rfl := List.mem_singleton.mp ho
        have hget := Graph.get_push_self a.graph
          ⟨scalarTag m p untyped value, m.start, .scalar value⟩
        rw [place_graph]
        refine .of_children (fun ha => absurd ha (by simp [Node.isAlias])) (fun _ => ?_)
          fun c hc => by cases hc
        have hnumber : Spot.number ⟨before, .scalar (m.spanTo m) p.anchor value⟩ =
            a.graph.nodes.size := ht.size.symm
        refine ⟨?_, ?_, ?_⟩
        · rw [hnumber]; simp [Assembly.add]
        · unfold Graph.Draws
          rw [hnumber]
          exact congrArg GraphNode.content hget
        · rw [hnumber, show (a.add p.anchor _).2.graph.get a.graph.nodes.size = _ from hget]
          exact hT
      · rw [ht.ref rfl]
        exact place_congr _ (a := (a.add p.anchor _).2) rfl rfl

/-- The part of an alias adds no node, and gets the number of the referent. -/
theorem goal_alias (T : TagRule) (span : Option Span) (anchor source : Option String) :
    Goal T (.alias span anchor source) := by
  intro parts a a' before hs htag ht h
  cases hs with
  | @«alias» m name hk =>
      obtain ⟨a₁, h₁, h₂⟩ := run_cons_ok h
      cases h₂
      simp only [step, hk] at h₁
      split at h₁
      · next n hn =>
        cases h₁
        rw [ht.anchors, Option.map_eq_some_iff] at hn
        obtain ⟨r, hr, rfl⟩ := hn
        have hreferent : Spot.referent ⟨before, .alias (m.spanTo m) none (some name)⟩ = some r :=
          Spot.referent_eq_some.mpr ⟨name, rfl, hr⟩
        refine ⟨⟨?_, fun n _ => by rw [place_graph], fun o ho => ?_⟩, ?_⟩
        · refine Tracks.congr (a := a) ⟨?_, fun other => ?_⟩ (by rw [place_graph])
            (place_anchors _ _)
          · simp [Node.nodes, Node.isAlias, List.countP_append, ht.size]
          · rw [ht.anchors, Spot.lastCarrier_append_of_not]
            simp [Node.nodes, Node.Carries, Node.anchor]
        · obtain rfl := List.mem_singleton.mp ho
          exact .of_children (fun _ => ⟨r, hreferent⟩) (fun ha => by cases ha)
            fun c hc => by cases hc
        · rw [Spot.ref, hreferent]
          exact ⟨rfl, rfl⟩
      · cases h₁

/-- The parts of a tree, taken into account one after another, draw it. -/
theorem run_spells (T : TagRule) (node : Node) : Goal T node := by
  induction node using Node.induction with
  | scalar span anchor value => exact goal_scalar T span anchor value
  | «alias» span anchor source => exact goal_alias T span anchor source
  | bare => intro _ _ _ _ hs; cases hs
  | sequence span anchor items ih =>
      intro parts a a' before hs htag ht h
      cases hs with
      | @sequence m p _ inner e hm hall he =>
          -- the two collections differ in what they are filled with only
          refine run_collection (.sequence (m.spanTo e) p.anchor items) p sequenceTag (.sequence [])
            .sequence rfl ih rfl
            (fun a => by simp only [step, hm]) (fun a => by simp only [step, he]) hall
            (fun x hx => htag x (by simp [hx])) (fun _ => ?_) (fun g hg => hg) ht h
          have := htag m (by simp)
          rwa [Markup.Tagged, hm] at this
  | mapping span anchor pairs ih =>
      intro parts a a' before hs htag ht h
      cases hs with
      | @mapping m p _ inner e hm hall he =>
          refine run_collection (.mapping (m.spanTo e) p.anchor pairs) p mappingTag
            (.mapping [] none) (fun ns => .mapping (pairUp ns) none) rfl (fun c hc => ?_) rfl
            (fun a => by simp only [step, hm]) (fun a => by simp only [step, he]) hall
            (fun x hx => htag x (by simp [hx])) (fun _ => ?_) (fun g hg => hg) ht h
          · obtain ⟨pair, hpair, hc⟩ := List.mem_flatMap.mp hc
            rcases List.mem_cons.mp hc with rfl | hc
            · exact (ih pair hpair).1
            · exact List.mem_singleton.mp hc ▸ (ih pair hpair).2
          · have := htag m (by simp)
            rwa [Markup.Tagged, hm] at this

/-- Ends add nothing. -/
theorem run_ends {tail : List Markup}
    (htail : ∀ e ∈ tail, e.kind = .documentEnd ∨ e.kind = .streamEnd) (h : a.run tail = .ok a') :
    a' = a := by
  induction tail with
  | nil => cases h; rfl
  | cons e rest ih =>
      obtain ⟨a₁, h₁, h₂⟩ := run_cons_ok h
      have : a.step e = .ok a := by
        unfold step
        rcases htail e (by simp) with he | he <;> rw [he]
      cases this.symm.trans h₁
      exact ih (fun x hx => htail x (by simp [hx])) h₂

end Assembly

/-- The parts of a document, put together, draw its tree; the root comes first. -/
theorem SpellsDocument.draws {T : TagRule} {root : Node} {parts : List Markup}
    {a : Assembly} (hs : SpellsDocument root parts) (htag : ∀ m ∈ parts, m.Tagged T)
    (h : (Assembly.start .empty).run parts = .ok a) :
    a.root = some 0 ∧ root.isAlias = false ∧ a.graph.DrawsAll T (.root root) ∧
      a.graph.nodes.size = root.nodes.countP fun n => !n.isAlias := by
  obtain ⟨m, body, tail, rfl, hm, hbody, htail⟩ := hs
  obtain ⟨a₁, h₁, h₂⟩ := Assembly.run_append_ok h
  obtain ⟨a₀, h₀, h₁⟩ := Assembly.run_cons_ok h₁
  obtain rfl : Assembly.start .empty = a₀ := by
    simp only [Assembly.step, hm, Assembly.start] at h₀
    exact Except.ok.inj h₀
  have htracks : (Assembly.start .empty).Tracks [] := ⟨rfl, fun _ => rfl⟩
  obtain ⟨hadds, hgets⟩ := Assembly.run_spells T root hbody (fun x hx => htag x (by simp [hx]))
    htracks h₁
  obtain rfl := Assembly.run_ends htail h₂
  have hdraws := hadds.draws _ (List.mem_singleton.mpr rfl)
  have hna : root.isAlias = false := by
    cases hroot : root.isAlias with
    | false => rfl
    | true =>
        obtain ⟨r, hr⟩ := hdraws.settled _ (.refl _) hroot
        obtain ⟨name, -, hr⟩ := Spot.referent_eq_some.mp hr
        cases hr
  refine ⟨?_, hna, hdraws, hadds.tracks.size⟩
  rw [hgets.2, htracks.ref hna]
  rfl

end Yaml

end YamlAudit
