import YamlAudit.Proofs.RangeMap.Picture
import YamlAudit.RangeMap.Locate

/-!
# RangeMap — locating is reading

A path can be read in the document itself: an alias is replaced by the node that carries its name,
again while that is an alias, before each segment and once more at the end (`Node.Reads`).  Where
every name is carried by one node this needs no order and no scope.

* `RangeMap.locate_eq_reads`: in such a document `locate` finds, for every path, the node that the
  reading ends at.

The reading is told without the map, without a scope and without a bound on how often an alias is
replaced, so that `locate` is held against something other than itself.  That the reading ends, and
in one node, is part of what is shown.
-/

namespace YamlAudit

namespace Node

/-! ### Reading a path in a document -/

/-- Whether a node is a scalar with a text. -/
def isText (name : String) : Node → Bool
  | .scalar _ _ text => text = name
  | _ => false

/-- The child under a segment: a number takes an item of a sequence, a text a value of a mapping. -/
def under : Node → Segment → Option Node
  | .sequence _ _ items, .index n => if n < 0 then none else items[n.toNat]?
  | .mapping _ _ pairs, .key name => (pairs.find? fun pair => pair.1.isText name).map (·.2)
  | _, _ => none

/-- The second node is what the first stands for: an alias stands for what the node with its name
stands for, every other node for itself. -/
inductive Denotes (d : Node) : Node → Node → Prop
  | self {n} : n.isAlias = false → Denotes d n n
  | named {a name n e} : a.aliasName? = some name → n ∈ d.nodes → n.Carries name →
      Denotes d n e → Denotes d a e

/-- The last node is where the reading of a path from the first one ends: with the path, or at the
first segment that cannot be taken. -/
inductive Reads (d : Node) : Node → List Segment → Node → Prop
  | done {n e} : Denotes d n e → Reads d n [] e
  | step {n r segment c rest e} : Denotes d n r → r.under segment = some c → Reads d c rest e →
      Reads d n (segment :: rest) e
  | stop {n e segment rest} : Denotes d n e → e.under segment = none →
      Reads d n (segment :: rest) e

/-- The second node can be reached from the first through children and names. -/
def Reaches (d : Node) : Node → Node → Prop :=
  Relation.ReflTransGen fun a b =>
    b ∈ a.children ∨ ∃ name, a.aliasName? = some name ∧ b ∈ d.nodes ∧ b.Carries name

/-- A document in which every alias has one meaning: every name is carried by one node, which
begins before the aliases to it and does not reach them. -/
structure Readable (d : Node) : Prop where
  not_bare : ∀ span anchor, .bare span anchor ∉ d.nodes
  spanned : d.Spanned
  keyed : d.Keyed
  names : d.anchorNames.Nodup
  named : ∀ pre span anchor source post, d.nodes = pre ++ .alias span anchor source :: post →
    ∃ name, source = some name ∧ ∃ n ∈ pre, n.Carries name
  acyclic : ∀ n ∈ d.nodes, ∀ name a, n.Carries name → d.Reaches n a → a.aliasName? ≠ some name

/-! ### Children with and without their places -/

theorem itemAt_map_snd (between items : List Node) (n : Nat) :
    (partAt.itemAt between items n).map Prod.snd = items[n]? := by
  induction items generalizing between n with
  | nil => rfl
  | cons item rest ih => cases n <;> simp [partAt.itemAt, ih]

theorem valueAt_map_snd (between : List Node) (name : String) (pairs : List (Node × Node)) :
    (partAt.valueAt between name pairs).map Prod.snd =
      (pairs.find? fun pair => pair.1.isText name).map Prod.snd := by
  induction pairs generalizing between with
  | nil => rfl
  | cons pair rest ih =>
      obtain ⟨key, value⟩ := pair
      cases key with
      | scalar span anchor text =>
          by_cases h : text = name <;> simp [partAt.valueAt, isText, h, ih]
      | _ => simp [partAt.valueAt, isText, ih]

theorem partAt_map_snd (node : Node) (segment : Segment) :
    (node.partAt segment).map Prod.snd = node.under segment := by
  cases node <;> cases segment <;> try rfl
  · rw [partAt, under]
    split
    · rfl
    · exact itemAt_map_snd _ _ _
  · exact valueAt_map_snd _ _ _

theorem reaches_of_inside {d : Node} {a b : Spot} (h : Spot.Inside a b) :
    d.Reaches a.node b.node := by
  induction h with
  | refl => exact .refl
  | tail _ hc ih =>
      obtain ⟨p, hp, rfl⟩ := Spot.mem_children_iff.mp hc
      refine ih.tail (.inl ?_)
      rw [← parts_map_snd]
      exact List.mem_map_of_mem hp

/-- From a node without aliases only its own nodes can be reached. -/
theorem Reaches.mem_nodes {d n a : Node} (h : d.Reaches n a)
    (hn : ∀ x ∈ n.nodes, x.isAlias = false) : a ∈ n.nodes := by
  induction h with
  | refl => exact mem_nodes_self n
  | tail _ hs ih =>
      rcases hs with hc | ⟨name, hname, -⟩
      · exact nodes_subset ih (nodes_subset_of_mem_children hc (mem_nodes_self _))
      · have := hn _ ih
        rw [isAlias_of_aliasName? hname] at this
        cases this

/-! ### Readable documents -/

namespace Readable

variable {d : Node}

theorem isCharted (hd : d.Readable) {n : Node} (hn : n ∈ d.nodes) : n.isCharted = true :=
  (hd.keyed.scalarKeys.of_mem hn).isCharted fun sp a h => hd.not_bare sp a (nodes_subset hn h)

/-- Two places that carry a name are the same place. -/
theorem carrier_unique (hd : d.Readable) {a b post : List Node} (h : d.nodes = a ++ b ++ post)
    {name : String} {x y : Node} (hx : x ∈ a) (hy : y ∈ b) (hxn : x.Carries name)
    (hyn : y.Carries name) : False := by
  have hnodup := hd.names
  rw [anchorNames_eq, h, List.append_assoc, List.filterMap_append, List.nodup_append] at hnodup
  refine hnodup.2.2 name (List.mem_filterMap.mpr ⟨x, hx, hxn⟩) name ?_ rfl
  exact List.mem_filterMap.mpr ⟨y, by simp [hy], hyn⟩

/-- A name is carried by one node. -/
theorem carries_inj (hd : d.Readable) {x y : Node} {name : String} (hx : x ∈ d.nodes)
    (hy : y ∈ d.nodes) (hxn : x.Carries name) (hyn : y.Carries name) : x = y := by
  obtain ⟨a, b, h⟩ := List.append_of_mem hx
  rw [h] at hy
  rcases List.mem_append.mp hy with hy | hy
  · exact (hd.carrier_unique (b := [x]) (by simpa using h) hy (by simp) hyn hxn).elim
  · rcases List.mem_cons.mp hy with hy | hy
    · exact hy.symm
    · have hnodes : d.nodes = (a ++ [x]) ++ b ++ [] := by simpa using h
      exact (hd.carrier_unique hnodes (by simp) hy hxn hyn).elim

theorem exists_carrier (hd : d.Readable) {o : Spot} (ho : Spot.Inside (.root d) o)
    (ha : o.node.isAlias) :
    ∃ name, o.node.aliasName? = some name ∧ ∃ n ∈ o.before, n.Carries name := by
  obtain ⟨before, node⟩ := o
  obtain ⟨post, hpost⟩ := ho.before_append
  cases node with
  | «alias» span anchor source =>
      obtain ⟨name, rfl, h⟩ := hd.named before span anchor source post (by simpa [nodes] using hpost)
      exact ⟨name, rfl, h⟩
  | _ => cases ha

theorem settled (hd : d.Readable) : d.Settled := by
  intro o ho ha
  obtain ⟨name, hn, n, hmem, hc⟩ := hd.exists_carrier ho ha
  cases h : Spot.lastCarrier name o.before with
  | none => exact absurd hc (Spot.lastCarrier_eq_none.mp h n hmem)
  | some r => exact ⟨r, Spot.referent_eq_some.mpr ⟨name, hn, h⟩⟩

theorem regular (hd : d.Readable) : d.Regular where
  settled := hd.settled
  isOpen := by
    intro o r ho hr hin
    obtain ⟨name, hn, hlast⟩ := Spot.referent_eq_some.mp hr
    obtain ⟨-, -, hc, -⟩ := Spot.lastCarrier_eq_some.mp hlast
    obtain ⟨post, hpost⟩ := (ho.referent hr).before_append
    have hmem : r.node ∈ d.nodes := by simp [hpost, mem_nodes_self]
    exact hd.acyclic r.node hmem name o.node hc (reaches_of_inside hin) hn
  steady := Spot.steady_of_nodup hd.settled hd.names

theorem denotes_inj (hd : d.Readable) {n a b : Node} (ha : Denotes d n a) (hb : Denotes d n b) :
    a = b := by
  induction ha with
  | self hn =>
      cases hb with
      | self => rfl
      | named h => rw [isAlias_of_aliasName? h] at hn; cases hn
  | named hname hmem hc _ ih =>
      cases hb with
      | self hn => rw [isAlias_of_aliasName? hname] at hn; cases hn
      | named hname' hmem' hc' hb =>
          obtain rfl := Option.some.inj (hname.symm.trans hname')
          exact ih (hd.carries_inj hmem hmem' hc hc' ▸ hb)

/-- A path is read in one way. -/
theorem reads_inj (hd : d.Readable) {n a b : Node} {path : List Segment} (ha : Reads d n path a)
    (hb : Reads d n path b) : a = b := by
  induction ha with
  | done h => cases hb with | done h' => exact hd.denotes_inj h h'
  | step h hu _ ih =>
      cases hb with
      | step h' hu' hb =>
          obtain rfl := hd.denotes_inj h h'
          exact ih (Option.some.inj (hu.symm.trans hu') ▸ hb)
      | stop h' hu' =>
          obtain rfl := hd.denotes_inj h h'
          cases hu.symm.trans hu'
  | stop h hu =>
      cases hb with
      | step h' hu' =>
          obtain rfl := hd.denotes_inj h h'
          cases hu.symm.trans hu'
      | stop h' => exact hd.denotes_inj h h'

end Readable

end Node

namespace RangeMap

open Node

variable {t : LineTable} {d : Node}

/-- Following targets leads to what the node stands for. -/
theorem follow_denotes (hd : d.Readable) {o : Spot} (ho : Spot.Inside (.root d) o) :
    ∀ {m}, Pictures t o m → ∃ e, Spot.Inside (.root d) e ∧ Denotes d o.node e.node ∧
      Pictures t e m.follow.2 := by
  refine Spot.open_induction hd.regular.isOpen (P := fun o => ∀ {m}, Pictures t o m →
    ∃ e, Spot.Inside (.root d) e ∧ Denotes d o.node e.node ∧ Pictures t e m.follow.2) ?_ o ho
  intro o ho _ ih m h
  have htarget := h.target hd.regular ho
  obtain ⟨value, key, children, target⟩ := m
  cases hr : o.referent with
  -- only an alias has a target, and in a readable document every alias has one
  | none =>
      rw [hr] at htarget
      cases htarget
      refine ⟨o, ho, .self ?_, h⟩
      cases hn : o.node.isAlias with
      | false => rfl
      | true =>
          obtain ⟨r, hr'⟩ := hd.regular.settled o ho hn
          rw [hr] at hr'
          cases hr'
  | some r =>
      rw [hr] at htarget
      cases htarget with
      | some hm =>
          obtain ⟨e, he, hden, hpic⟩ := ih r hr hm
          obtain ⟨name, hn, hlast⟩ := Spot.referent_eq_some.mp hr
          obtain ⟨-, -, hc, -⟩ := Spot.lastCarrier_eq_some.mp hlast
          obtain ⟨post, hpost⟩ := (ho.referent hr).before_append
          exact ⟨e, he, .named hn (by simp [hpost, mem_nodes_self]) hc hden, hpic⟩

/-- A walk ends at the map of the node at which the reading of its path ends. -/
theorem walk_reads (hd : d.Readable) (path : List Segment) :
    ∀ {o m}, Spot.Inside (.root d) o → Pictures t o m →
      ∃ e, Spot.Inside (.root d) e ∧ Reads d o.node path e.node ∧ Pictures t e (m.walk path).2 := by
  induction path with
  | nil =>
      intro o m ho h
      obtain ⟨e, he, hden, hpic⟩ := follow_denotes hd ho h
      exact ⟨e, he, .done hden, hpic⟩
  | cons segment rest ih =>
      intro o m ho h
      obtain ⟨e, he, hden, hpic⟩ := follow_denotes hd ho h
      obtain ⟨post, hpost⟩ := he.before_append
      have hmem : e.node ∈ d.nodes := by simp [hpost, mem_nodes_self]
      have hchild := hpic.child (hd.keyed _ hmem) segment
      have hunder : e.node.under segment = (e.into segment).map (·.node) := by
        rw [← partAt_map_snd, Spot.into, Option.map_map]; rfl
      rw [walk]
      cases hc : e.into segment with
      | none =>
          -- the map has no position where the node has no child, and the reading stops too
          rw [hc] at hchild hunder
          generalize hm : m.follow.2.child segment = c at hchild
          cases hchild
          exact ⟨e, he, .stop hden hunder, by simpa only [hm] using hpic⟩
      | some c =>
          rw [hc] at hchild hunder
          -- a child of a readable document is charted, so there is a position to go on from
          have hin := he.tail (Spot.mem_children_of_into hc)
          obtain ⟨post, hpost⟩ := hin.before_append
          have hcharted : c.node.isCharted = true :=
            hd.isCharted (by simp [hpost, mem_nodes_self])
          rw [Option.filter_some, hcharted, if_pos rfl] at hchild
          generalize hm : m.follow.2.child segment = next at hchild
          cases hchild with
          | some hnext =>
              obtain ⟨e', he', hread, hpic'⟩ := ih hin hnext
              exact ⟨e', he', .step hden hunder hread, by simpa only [hm] using hpic'⟩

/-- The map of a readable document locates every path at the node at which its reading ends. -/
theorem locate_eq_reads (t : LineTable) (d : Node) (hd : d.Readable) :
    ∃ m, index t d = .ok (some m) ∧ ∀ path, ∃ e span, Reads d d path e ∧
      (∀ e', Reads d d path e' → e' = e) ∧ e.span = some span ∧
      (m.locate path .valueStart).primary = t.location span.start ∧
      (m.locate path .valueEnd).primary = t.location span.stop := by
  obtain ⟨m, hm, hpic⟩ := exists_index_pictures (hd.spanned.positioned t)
  refine ⟨m, hm, fun path => ?_⟩
  obtain ⟨e, he, hread, hland⟩ := walk_reads hd path (.refl _) hpic
  obtain ⟨span, hspan, hstart, hstop⟩ := LineTable.nodeRange_eq_some hland.nodeRange
  exact ⟨e.node, span, hread, fun e' h => hd.reads_inj h hread, hspan, hstart, hstop⟩

/-- The tree of `a: &x [p, q]` and `b: *x`. -/
def sharedItems : Node :=
  .mapping (some ⟨0, 19⟩) none
    [(.scalar (some ⟨0, 1⟩) none "a",
      .sequence (some ⟨3, 12⟩) (some "x")
        [.scalar (some ⟨7, 8⟩) none "p", .scalar (some ⟨10, 11⟩) none "q"]),
      (.scalar (some ⟨13, 14⟩) none "b", .alias (some ⟨16, 18⟩) none (some "x"))]

theorem locate_eq_reads_sharedItems :
    sharedItems.Readable ∧ ∃ m, index (.ofText "a: &x [p, q]\nb: *x\n") sharedItems = .ok (some m) ∧
      ∀ path, ∃ e span, Reads sharedItems sharedItems path e ∧
        (∀ e', Reads sharedItems sharedItems path e' → e' = e) ∧ e.span = some span ∧
        (m.locate path .valueStart).primary =
          (LineTable.ofText "a: &x [p, q]\nb: *x\n").location span.start ∧
        (m.locate path .valueEnd).primary =
          (LineTable.ofText "a: &x [p, q]\nb: *x\n").location span.stop := by
  have hd : sharedItems.Readable := {
    not_bare := by simp [sharedItems, nodes, nodesOfPairs, nodesOfItems]
    spanned := by decide
    keyed := by decide
    names := by decide
    named := by
      intro pre span anchor source post h
      simp only [sharedItems, nodes, nodesOfPairs, nodesOfItems, List.append_nil, List.cons_append,
        List.nil_append, List.cons_eq_append_iff, List.cons.injEq, reduceCtorEq, false_and,
        and_false, false_or] at h
      obtain ⟨_, rfl, _, rfl, _, rfl, _, rfl, _, rfl, _, rfl, h⟩ := h
      obtain ⟨rfl, ⟨-, -, rfl⟩, -⟩ | ⟨_, -, h⟩ := h
      · exact ⟨"x", rfl, .sequence _ _ _, .tail _ (.tail _ (.head _)), rfl⟩
      · simp at h
    acyclic := by
      intro n hn name a hc ha hname
      simp only [sharedItems, nodes, nodesOfPairs, nodesOfItems, List.append_nil, List.cons_append,
        List.nil_append, List.mem_cons, List.not_mem_nil, or_false] at hn
      rcases hn with rfl | rfl | rfl | rfl | rfl | rfl | rfl <;> cases hc
      have hmem := ha.mem_nodes (by decide)
      simp only [nodes, nodesOfItems, List.append_nil, List.cons_append, List.nil_append,
        List.mem_cons, List.not_mem_nil, or_false] at hmem
      rcases hmem with rfl | rfl | rfl <;> cases hname }
  exact ⟨hd, locate_eq_reads _ _ hd⟩

end RangeMap

end YamlAudit
