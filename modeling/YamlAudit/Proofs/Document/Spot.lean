import Mathlib.Logic.Relation
import YamlAudit.Proofs.Document.Order

/-!
# Document — what an alias stands for

A `Spot` is a node together with the nodes that begin before it in its document, so that it tells
equal nodes in different places apart.  An alias stands for the node that carried its name last
among those before it (`Spot.referent`); that is its meaning in the document, wherever it is reached
from.  From a spot one gets into its children (`Spot.children`) and, at an alias, to its referent;
`Spot.Leads` is to get somewhere by any number of such steps, and `Spot.Inside` by children alone.

A document is

* *settled* when every alias has a referent (`Node.Settled`),
* *open* when no alias lies inside its referent (`Node.Open`),
* *steady* when an alias that another alias leads to is not overtaken: no node from the former on
  and up to the latter carries the former's name (`Node.Steady`),
* *regular* when it is all three (`Node.Regular`).

In an open document no way leads back to where it began (`Spot.referent_stop_le`,
`Spot.Leads.stop_le`).
-/

namespace YamlAudit

/-- The name an alias refers to. -/
def Node.aliasName? : Node → Option String
  | .alias _ _ source => source
  | _ => none

/-- Whether a node is an alias. -/
def Node.isAlias : Node → Bool
  | .alias .. => true
  | _ => false

theorem Node.isAlias_of_aliasName? {node : Node} {name : String} (h : node.aliasName? = some name) :
    node.isAlias := by
  cases node with
  | «alias» => rfl
  | _ => cases h

/-- A node, and the nodes that begin before it in its document. -/
structure Spot where
  before : List Node
  node : Node

namespace Spot

/-- The root of a document. -/
def root (node : Node) : Spot := ⟨[], node⟩

/-- The node that carries a name last among some nodes. -/
def lastCarrier (name : String) (nodes : List Node) : Option Spot :=
  go [] nodes
where
  /-- The last one among the nodes that come after `before`. -/
  go (before : List Node) : List Node → Option Spot
    | [] => none
    | n :: rest =>
      match go (before ++ [n]) rest with
      | some o => some o
      | none => if n.Carries name then some ⟨before, n⟩ else none

/-- The children of a spot, in document order. -/
def children (o : Spot) : List Spot := o.node.parts.map fun p => ⟨o.before ++ p.1, p.2⟩

/-- The child under a segment. -/
def into (o : Spot) (segment : Segment) : Option Spot :=
  (o.node.partAt segment).map fun p => ⟨o.before ++ p.1, p.2⟩

/-- What an alias stands for. -/
def referent (o : Spot) : Option Spot := o.node.aliasName?.bind fun name => lastCarrier name o.before

/-- A spot, or what it stands for if it is an alias. -/
def home (o : Spot) : Spot := o.referent.getD o

/-- The second spot lies inside the first, or is the first. -/
def Inside : Spot → Spot → Prop := Relation.ReflTransGen fun a b => b ∈ a.children

/-- The second spot is reached from the first by children and aliases. -/
def Leads : Spot → Spot → Prop :=
  Relation.ReflTransGen fun a b => b ∈ a.children ∨ a.referent = some b

/-- The place in document order at which a spot is over. -/
def stop (o : Spot) : Nat := o.before.length + o.node.nodes.length

/-! ### The last carrier of a name -/

/-- A node that carries the name is found, or one behind it. -/
theorem lastCarrier_go_ne_none {name : String} {n : Node} {nodes before : List Node} (hn : n ∈ nodes)
    (hc : n.Carries name) : lastCarrier.go name before nodes ≠ none := by
  induction nodes generalizing before with
  | nil => cases hn
  | cons x rest ih =>
      rw [lastCarrier.go]
      split
      · simp
      · next e =>
        rcases List.mem_cons.mp hn with rfl | hn
        · simp [hc]
        · exact absurd e (ih hn)

/-- What is found carries the name, and nothing behind it does. -/
theorem lastCarrier_go_eq_some {name : String} {nodes before : List Node} {o : Spot} :
    lastCarrier.go name before nodes = some o ↔
      ∃ pre post, nodes = pre ++ o.node :: post ∧ o.before = before ++ pre ∧
        o.node.Carries name ∧ ∀ n ∈ post, ¬ n.Carries name := by
  induction nodes generalizing before o with
  | nil => simp [lastCarrier.go]
  | cons n rest ih =>
      rw [lastCarrier.go]
      constructor
      · intro h
        -- what is found further behind comes first; the node itself counts if there is nothing
        split at h
        · next o' ho =>
          cases h
          obtain ⟨pre, post, rfl, hb, hc, hp⟩ := ih.mp ho
          exact ⟨n :: pre, post, rfl, by simp [hb], hc, hp⟩
        · next ho =>
          split at h
          · next hn =>
            cases h
            exact ⟨[], rest, rfl, by simp, hn, fun x hx hc => lastCarrier_go_ne_none hx hc ho⟩
          · cases h
      · rintro ⟨_ | ⟨x, pre⟩, post, h, hb, hc, hp⟩
        · obtain ⟨rfl, rfl⟩ := List.cons.inj h
          have hnone : lastCarrier.go name (before ++ [o.node]) rest = none := by
            cases e : lastCarrier.go name (before ++ [o.node]) rest with
            | none => rfl
            | some o' =>
                obtain ⟨pre, post, rfl, -, hc', -⟩ := ih.mp e
                exact absurd hc' (hp _ (by simp))
          simp only [hnone, if_pos hc, List.append_nil] at hb ⊢
          rw [← hb]
        · obtain ⟨rfl, rfl⟩ := List.cons.inj h
          have hsome : lastCarrier.go name (before ++ [n]) _ = some o :=
            ih.mpr ⟨pre, post, rfl, by simp [hb], hc, hp⟩
          simp only [hsome]

/-- The last carrier of a name carries it, and no node after it does. -/
theorem lastCarrier_eq_some {name : String} {nodes : List Node} {o : Spot} :
    lastCarrier name nodes = some o ↔ ∃ post, nodes = o.before ++ o.node :: post ∧
      o.node.Carries name ∧ ∀ n ∈ post, ¬ n.Carries name := by
  rw [lastCarrier, lastCarrier_go_eq_some]
  constructor
  · rintro ⟨pre, post, h, hb, hc, hp⟩
    rw [List.nil_append] at hb
    exact ⟨post, hb ▸ h, hc, hp⟩
  · rintro ⟨post, h, hc, hp⟩
    exact ⟨o.before, post, h, rfl, hc, hp⟩

/-- Nothing is found if nothing carries the name. -/
theorem lastCarrier_eq_none {name : String} {nodes : List Node} :
    lastCarrier name nodes = none ↔ ∀ n ∈ nodes, ¬ n.Carries name := by
  constructor
  · exact fun h n hn hc => lastCarrier_go_ne_none hn hc h
  · intro h
    cases e : lastCarrier name nodes with
    | none => rfl
    | some o =>
        obtain ⟨post, rfl, hc, -⟩ := lastCarrier_eq_some.mp e
        exact absurd hc (h _ (by simp))

/-- Nodes without the name change nothing about its last carrier. -/
theorem lastCarrier_append_of_not {name : String} {a b : List Node}
    (h : ∀ n ∈ b, ¬ n.Carries name) : lastCarrier name (a ++ b) = lastCarrier name a := by
  cases e : lastCarrier name a with
  | none =>
      rw [lastCarrier_eq_none] at e ⊢
      exact fun n hn => (List.mem_append.mp hn).elim (e n) (h n)
  | some o =>
      obtain ⟨post, rfl, hc, hp⟩ := lastCarrier_eq_some.mp e
      refine lastCarrier_eq_some.mpr ⟨post ++ b, by simp, hc, fun n hn => ?_⟩
      rcases List.mem_append.mp hn with hn | hn
      · exact hp n hn
      · exact h n hn

/-- The last carrier among two joined lists is in the second if any is. -/
theorem lastCarrier_append (name : String) (a b : List Node) :
    lastCarrier name (a ++ b) =
      match lastCarrier name b with
      | some q => some ⟨a ++ q.before, q.node⟩
      | none => lastCarrier name a := by
  cases h : lastCarrier name b with
  | none => exact lastCarrier_append_of_not (lastCarrier_eq_none.mp h)
  | some q =>
      obtain ⟨post, rfl, hc, hpost⟩ := lastCarrier_eq_some.mp h
      exact lastCarrier_eq_some.mpr ⟨post, by simp, hc, hpost⟩

/-- What is found is one of the nodes that were gone through. -/
theorem length_before_of_lastCarrier {name : String} {nodes : List Node} {r : Spot}
    (h : lastCarrier name nodes = some r) : r.before.length < nodes.length := by
  obtain ⟨post, rfl, -, -⟩ := lastCarrier_eq_some.mp h
  simp

/-- A referent is the last carrier of the name of an alias. -/
theorem referent_eq_some {o r : Spot} :
    o.referent = some r ↔
      ∃ name, o.node.aliasName? = some name ∧ lastCarrier name o.before = some r :=
  Option.bind_eq_some_iff

/-! ### Ways through a document -/

theorem Inside.refl (o : Spot) : Inside o o := Relation.ReflTransGen.refl

theorem Inside.trans {a b c : Spot} (h₁ : Inside a b) (h₂ : Inside b c) : Inside a c :=
  Relation.ReflTransGen.trans h₁ h₂

theorem Inside.head {a b c : Spot} (h₁ : b ∈ a.children) (h₂ : Inside b c) : Inside a c :=
  Relation.ReflTransGen.head h₁ h₂

theorem Inside.tail {a b c : Spot} (h₁ : Inside a b) (h₂ : c ∈ b.children) : Inside a c :=
  Relation.ReflTransGen.tail h₁ h₂

theorem Leads.refl (o : Spot) : Leads o o := Relation.ReflTransGen.refl

theorem Leads.child {a b c : Spot} (h₁ : b ∈ a.children) (h₂ : Leads b c) : Leads a c :=
  Relation.ReflTransGen.head (.inl h₁) h₂

theorem Leads.through {a b c : Spot} (h₁ : a.referent = some b) (h₂ : Leads b c) : Leads a c :=
  Relation.ReflTransGen.head (.inr h₁) h₂

/-- A child of a spot has before it what the spot has, and what begins between them. -/
theorem mem_children_iff {o c : Spot} :
    c ∈ o.children ↔ ∃ p ∈ o.node.parts, c = ⟨o.before ++ p.1, p.2⟩ := by
  simp [children, eq_comm]

/-- A segment leads into a child. -/
theorem mem_children_of_into {o c : Spot} {segment : Segment} (h : o.into segment = some c) :
    c ∈ o.children := by
  obtain ⟨p, hp, rfl⟩ := Option.map_eq_some_iff.mp h
  exact mem_children_iff.mpr ⟨p, Node.partAt_mem hp, rfl⟩

/-- What lies inside a spot begins at or after it and ends no later. -/
theorem Inside.split {a b : Spot} (h : Inside a b) :
    ∃ pre post, b.before = a.before ++ pre ∧ a.node.nodes = pre ++ b.node.nodes ++ post := by
  induction h with
  | refl => exact ⟨[], [], by simp, by simp⟩
  | tail _ hc ih =>
      obtain ⟨pre, post, hb, hn⟩ := ih
      obtain ⟨p, hp, rfl⟩ := mem_children_iff.mp hc
      obtain ⟨-, later, hl⟩ := Node.parts_prefix hp
      exact ⟨pre ++ p.1, later ++ post, by simp [hb], by simp [hn, hl]⟩

/-- Every node of a tree has a spot inside it. -/
theorem inside_of_nodes {a : Spot} {n : Node} {pre post : List Node}
    (h : a.node.nodes = pre ++ n :: post) : Inside a ⟨a.before ++ pre, n⟩ := by
  obtain ⟨before, node⟩ := a
  simp only at h ⊢
  induction hl : node.nodes.length using Nat.strongRecOn generalizing before node pre post with
  | ind l ih =>
      subst hl
      rcases Node.nodes_split h with ⟨rfl, rfl⟩ | ⟨p, hp, pre', post', hn, rfl⟩
      · simpa using Inside.refl _
      · have hin := ih _ (Node.length_nodes_part hp) (before ++ p.1) p.2 hn rfl
        rw [List.append_assoc] at hin
        exact .head (mem_children_iff.mpr ⟨p, hp, rfl⟩) hin

/-- What a spot inside a document stands for is inside the document. -/
theorem Inside.referent {d : Node} {o r : Spot} (h : Inside (root d) o) (hr : o.referent = some r) :
    Inside (root d) r := by
  obtain ⟨name, -, hl⟩ := referent_eq_some.mp hr
  obtain ⟨later, hb, -, -⟩ := lastCarrier_eq_some.mp hl
  obtain ⟨pre, post, hpre, hd⟩ := h.split
  obtain ⟨below, hbelow⟩ := o.node.nodes_eq_cons
  have hnodes : (root d).node.nodes = r.before ++ r.node :: (later ++ o.node :: below ++ post) := by
    rw [hd, hbelow]
    simp only [root, List.nil_append] at hpre
    rw [← hpre, hb]
    simp
  simpa [root] using inside_of_nodes hnodes

/-- What an alias stands for lies in the document of the alias. -/
theorem Inside.home {d : Node} {o : Spot} (h : Inside (root d) o) : Inside (root d) o.home := by
  unfold Spot.home
  cases hr : o.referent with
  | none => exact h
  | some r => exact h.referent hr

/-- No way leads out of a document. -/
theorem Leads.inside {d : Node} {a b : Spot} (h : Leads a b) (ha : Inside (root d) a) :
    Inside (root d) b := by
  induction h with
  | refl => exact ha
  | tail _ hs ih => exact hs.elim ih.tail ih.referent

end Spot

/-! ### Documents whose aliases are well placed -/

namespace Node

/-- Every alias has a referent. -/
def Settled (d : Node) : Prop :=
  ∀ o, Spot.Inside (.root d) o → o.node.isAlias → ∃ r, o.referent = some r

/-- No alias lies inside its referent. -/
def Open (d : Node) : Prop :=
  ∀ o r, Spot.Inside (.root d) o → o.referent = some r → ¬ Spot.Inside r o

/-- From an alias on and up to another that leads to it, no node carries the name of the former. -/
def Steady (d : Node) : Prop :=
  ∀ o o' name mid, Spot.Inside (.root d) o → o.node.isAlias → o.Leads o' →
    o'.node.aliasName? = some name → o.before ++ [o.node] = o'.before ++ mid →
    ∀ n ∈ mid, ¬ n.Carries name

/-- A document that is settled, open and steady. -/
structure Regular (d : Node) : Prop where
  settled : d.Settled
  isOpen : d.Open
  steady : d.Steady

end Node

namespace Spot

theorem isAlias_of_referent {o r : Spot} (h : o.referent = some r) : o.node.isAlias := by
  obtain ⟨name, hn, -⟩ := referent_eq_some.mp h
  exact Node.isAlias_of_aliasName? hn

theorem referent_eq_none_of_not_isAlias {o : Spot} (h : o.node.isAlias = false) :
    o.referent = none := by
  cases hr : o.referent with
  | none => rfl
  | some r =>
      have := isAlias_of_referent hr
      rw [h] at this
      cases this

theorem home_of_not_isAlias {o : Spot} (h : o.node.isAlias = false) : o.home = o := by
  rw [home, referent_eq_none_of_not_isAlias h]
  rfl

theorem home_of_referent {o r : Spot} (h : o.referent = some r) : o.home = r := by
  rw [home, h]
  rfl

/-- Nothing lies before the root, so it stands for itself. -/
theorem referent_root (d : Node) : (root d).referent = none := by
  cases hr : (root d).referent with
  | none => rfl
  | some r =>
      obtain ⟨name, -, hlast⟩ := referent_eq_some.mp hr
      cases hlast

theorem before_length_lt_stop (o : Spot) : o.before.length < o.stop := by
  obtain ⟨below, h⟩ := o.node.nodes_eq_cons
  simp [stop, h]

/-- A child ends no later than its parent. -/
theorem stop_le_of_children {o c : Spot} (h : c ∈ o.children) : c.stop ≤ o.stop := by
  obtain ⟨p, hp, rfl⟩ := mem_children_iff.mp h
  obtain ⟨-, later, hl⟩ := Node.parts_prefix hp
  simp only [stop, hl, List.length_append]
  omega

/-- Before and below a spot lie nodes of the document, in its order. -/
theorem Inside.before_append {d : Node} {o : Spot} (h : Inside (root d) o) :
    ∃ post, d.nodes = o.before ++ o.node.nodes ++ post := by
  obtain ⟨pre, post, hpre, hd⟩ := h.split
  simp only [root, List.nil_append] at hpre
  exact ⟨post, hpre ▸ hd⟩

theorem Inside.mem_nodes {d : Node} {o : Spot} (h : Inside (root d) o) : o.node ∈ d.nodes := by
  obtain ⟨post, hpost⟩ := h.before_append
  simp [hpost, o.node.mem_nodes_self]

/-- Where no alias has an anchor, none stands for another one. -/
theorem Inside.isAlias_referent {d : Node} {o r : Spot} (h : Inside (root d) o)
    (hplain : ∀ n ∈ d.nodes, n.isAlias → n.anchor = none) (hr : o.referent = some r) :
    r.node.isAlias = false := by
  obtain ⟨name, -, hlast⟩ := referent_eq_some.mp hr
  obtain ⟨-, -, hc, -⟩ := lastCarrier_eq_some.mp hlast
  cases ha : r.node.isAlias with
  | false => rfl
  | true =>
      rw [Node.Carries, hplain _ (h.referent hr).mem_nodes ha] at hc
      cases hc

/-- The spots of some nodes that come after `before`. -/
def spotsFrom (before : List Node) : List Node → List Spot
  | [] => []
  | n :: rest => ⟨before, n⟩ :: spotsFrom (before ++ [n]) rest

/-- The spots of a document, in document order. -/
def spots (d : Node) : List Spot := spotsFrom [] d.nodes

/-- The spots of a list of nodes, each with those before it. -/
theorem mem_spotsFrom_iff {before nodes : List Node} {o : Spot} :
    o ∈ spotsFrom before nodes ↔
      ∃ pre post, nodes = pre ++ o.node :: post ∧ o.before = before ++ pre := by
  induction nodes generalizing before with
  | nil => simp [spotsFrom]
  | cons n rest ih =>
      rw [spotsFrom, List.mem_cons, ih]
      constructor
      · rintro (rfl | ⟨pre, post, rfl, hb⟩)
        · exact ⟨[], rest, rfl, by simp⟩
        · exact ⟨n :: pre, post, rfl, by simp [hb]⟩
      · rintro ⟨_ | ⟨x, pre⟩, post, h, hb⟩
        · obtain ⟨rfl, -⟩ := List.cons.inj h
          exact .inl (by rw [List.append_nil] at hb; rw [← hb])
        · obtain ⟨rfl, rfl⟩ := List.cons.inj h
          exact .inr ⟨pre, post, rfl, by simp [hb]⟩

/-- The spots inside the root are those of the nodes of the document. -/
theorem mem_spots_iff {d : Node} {o : Spot} : o ∈ spots d ↔ Inside (root d) o := by
  rw [spots, mem_spotsFrom_iff]
  constructor
  · rintro ⟨pre, post, h, hb⟩
    have hin := inside_of_nodes (a := root d) h
    rwa [show (root d).before = [] from rfl, ← hb] at hin
  · intro h
    obtain ⟨post, hpost⟩ := h.before_append
    obtain ⟨below, hbelow⟩ := o.node.nodes_eq_cons
    exact ⟨o.before, below ++ post, by simp [hpost, hbelow], rfl⟩

/-- Of two spots of a document the second begins no later than the first, or after it. -/
theorem before_comparable {d : Node} {a b : Spot} (ha : Inside (root d) a)
    (hb : Inside (root d) b) :
    (∃ mid, a.before = b.before ++ mid) ∨ ∃ mid, b.before = a.before ++ a.node :: mid := by
  obtain ⟨_, ha'⟩ := ha.before_append
  obtain ⟨_, hb'⟩ := hb.before_append
  obtain ⟨below, hbelow⟩ := a.node.nodes_eq_cons
  rw [ha', hbelow] at hb'
  rcases List.append_eq_append_iff.mp (show a.before ++ (a.node :: _) = b.before ++ _ by
    simpa using hb') with ⟨mid, h, h'⟩ | ⟨mid, h, -⟩
  · rcases mid with _ | ⟨x, mid⟩
    · exact .inl ⟨[], by simp [h]⟩
    · obtain ⟨rfl, -⟩ := List.cons.inj h'
      exact .inr ⟨mid, h⟩
  · exact .inl ⟨mid, h⟩

/-- In an open document a referent is over before its alias. -/
theorem referent_stop_le {d : Node} (hd : d.Open) {o r : Spot} (ho : Inside (root d) o)
    (hr : o.referent = some r) : r.stop ≤ o.before.length := by
  obtain ⟨name, -, hl⟩ := referent_eq_some.mp hr
  obtain ⟨later, hb, -, -⟩ := lastCarrier_eq_some.mp hl
  obtain ⟨post, hpost⟩ := ho.before_append
  obtain ⟨post', hpost'⟩ := (ho.referent hr).before_append
  obtain ⟨below, hbelow⟩ := r.node.nodes_eq_cons
  obtain ⟨below', hbelow'⟩ := o.node.nodes_eq_cons
  -- otherwise the alias is among the nodes of its referent
  have hkey : below ++ post' = later ++ o.node :: (below' ++ post) := by
    have h := hpost'.symm.trans hpost
    rw [hb, hbelow, hbelow'] at h
    simpa using h
  rcases Node.split_append hkey with ⟨q, hq⟩ | ⟨q, rfl, -⟩
  · refine absurd ?_ (hd o r ho hr)
    have hnodes : r.node.nodes = (r.node :: later) ++ o.node :: q := by rw [hbelow, hq]; rfl
    have hin := inside_of_nodes hnodes
    rwa [← hb] at hin
  · simp only [stop, hb, hbelow, List.length_append, List.length_cons]
    omega

/-- In an open document no way leads beyond where it began. -/
theorem Leads.stop_le {d : Node} (hd : d.Open) {a b : Spot} (h : Leads a b)
    (ha : Inside (root d) a) : b.stop ≤ a.stop := by
  induction h with
  | refl => exact Nat.le_refl _
  | @tail b c hab hs ih =>
      rcases hs with hc | hr
      · exact Nat.le_trans (stop_le_of_children hc) ih
      · have h₁ := referent_stop_le hd (Leads.inside hab ha) hr
        have h₂ := b.before_length_lt_stop
        omega

/-- Whether a document is settled is decided spot by spot. -/
theorem settled_iff {d : Node} :
    d.Settled ↔ ∀ o ∈ spots d, o.node.isAlias → o.referent.isSome := by
  simp only [Node.Settled, mem_spots_iff, Option.isSome_iff_exists]

/-- A document is open if every referent is over before its alias. -/
theorem open_iff {d : Node} :
    d.Open ↔ ∀ o ∈ spots d, ∀ r ∈ o.referent, r.stop ≤ o.before.length := by
  constructor
  · exact fun hd o ho r hr => referent_stop_le hd (mem_spots_iff.mp ho) hr
  · intro h o r ho hr hin
    have hle := h o (mem_spots_iff.mpr ho) r hr
    obtain ⟨pre, post, hb, hn⟩ := hin.split
    obtain ⟨below, hbelow⟩ := o.node.nodes_eq_cons
    simp only [stop, hn, hb, hbelow, List.length_append, List.length_cons] at hle
    omega

instance (d : Node) : Decidable d.Settled := decidable_of_iff' _ settled_iff

instance (d : Node) : Decidable d.Open := decidable_of_iff' _ open_iff

/-- Where every name is carried once, no alias is overtaken. -/
theorem steady_of_nodup {d : Node} (hs : d.Settled) (hnodup : d.anchorNames.Nodup) : d.Steady := by
  intro o o' name mid ho ha hl hn hmid n hmem hc
  obtain ⟨r, hr⟩ := hs o' (hl.inside ho) (Node.isAlias_of_aliasName? hn)
  obtain ⟨name', hn', hlast⟩ := referent_eq_some.mp hr
  obtain rfl := Option.some.inj (hn.symm.trans hn')
  obtain ⟨later, hb, hrc, -⟩ := lastCarrier_eq_some.mp hlast
  obtain ⟨post, hpost⟩ := ho.before_append
  obtain ⟨below, hbelow⟩ := o.node.nodes_eq_cons
  -- the referent and the node in between would carry the name twice
  have hnodes : d.nodes = o'.before ++ (mid ++ (below ++ post)) := by
    rw [← List.append_assoc, ← hmid, hpost, hbelow]
    simp
  rw [Node.anchorNames_eq, hnodes, List.filterMap_append, List.nodup_append] at hnodup
  exact hnodup.2.2 name (List.mem_filterMap.mpr ⟨r.node, by simp [hb], hrc⟩) name
    (List.mem_filterMap.mpr ⟨n, by simp [hmem], hc⟩) rfl

/-- Induction along the ways through an open document. -/
theorem open_induction {d : Node} (hd : d.Open) {P : Spot → Prop}
    (step : ∀ o, Inside (root d) o → (∀ c ∈ o.children, P c) →
      (∀ r, o.referent = some r → P r) → P o) :
    ∀ o, Inside (root d) o → P o := by
  -- a child is smaller, a referent is over earlier
  have main : ∀ k l, ∀ o, o.stop = k → o.node.nodes.length = l → Inside (root d) o → P o := by
    intro k
    induction k using Nat.strongRecOn with
    | ind k ihk =>
        intro l
        induction l using Nat.strongRecOn with
        | ind l ihl =>
            intro o hk hl ho
            refine step o ho (fun c hc => ?_) (fun r hr => ?_)
            · obtain ⟨p, hp, rfl⟩ := mem_children_iff.mp hc
              have hlen := Node.length_nodes_part hp
              rcases Nat.lt_or_eq_of_le (stop_le_of_children hc) with hlt | heq
              · exact ihk _ (hk ▸ hlt) _ _ rfl rfl (ho.tail hc)
              · exact ihl _ (hl ▸ hlen) _ (heq.trans hk) rfl (ho.tail hc)
            · have h₁ := referent_stop_le hd ho hr
              have h₂ := o.before_length_lt_stop
              exact ihk _ (by omega) _ _ rfl rfl (ho.referent hr)
  exact fun o ho => main _ _ o rfl rfl ho

/-- In a steady document, no node from an alias on and before a spot that leads to it carries the
name of the alias. -/
theorem Leads.not_carries {d : Node} (hd : d.Steady) {a o : Spot} (h : Leads a o)
    (ha : Inside (root d) a) {name : String} (hn : o.node.aliasName? = some name) {mid : List Node}
    (hb : a.before = o.before ++ mid) : ∀ n ∈ mid, ¬ n.Carries name := by
  induction h using Relation.ReflTransGen.head_induction_on generalizing mid with
  | refl =>
      have : mid = [] := by simpa using hb
      simp [this]
  | @head b c hs h ih =>
      rcases hs with hc | hr
      · obtain ⟨p, -, rfl⟩ := mem_children_iff.mp hc
        intro n hm
        have hbefore : b.before ++ p.1 = o.before ++ (mid ++ p.1) := by rw [hb, List.append_assoc]
        exact ih (ha.tail hc) hbefore n (by simp [hm])
      · intro n hm
        exact hd b o name (mid ++ [b.node]) ha (isAlias_of_referent hr) (.through hr h) hn
          (by simp [hb]) n (by simp [hm])

/-- In a steady document, an alias that a spot leads to has its referent as the last carrier before
the spot too, unless the referent comes later. -/
theorem Leads.lastCarrier_eq {d : Node} (hd : d.Steady) {a o : Spot} (h : Leads a o)
    (ha : Inside (root d) a) {name : String} (hn : o.node.aliasName? = some name) {r : Spot}
    (hr : o.referent = some r) (hlt : r.before.length < a.before.length) :
    lastCarrier name a.before = some r := by
  obtain ⟨name', hn', hlast⟩ := referent_eq_some.mp hr
  obtain rfl : name = name' := Option.some.inj (hn.symm.trans hn')
  rcases before_comparable ha (h.inside ha) with ⟨mid, hb⟩ | ⟨mid, hb⟩
  · rw [hb, lastCarrier_append_of_not (h.not_carries hd ha hn hb), hlast]
  · obtain ⟨post, hpost, hc, hlater⟩ := lastCarrier_eq_some.mp hlast
    rw [hb] at hpost
    rcases Node.split_append hpost with ⟨post', h'⟩ | ⟨pre, h', -⟩
    · refine lastCarrier_eq_some.mpr ⟨post', h', hc, fun n hn => hlater n ?_⟩
      rw [h'] at hpost
      have : post' ++ a.node :: mid = post := by simpa using hpost
      simp [← this, hn]
    · rw [h', List.length_append] at hlt
      omega

/-- What begins inside the stretch of a spot lies inside the spot. -/
theorem inside_of_stop_le {d : Node} {a b : Spot} (ha : Inside (root d) a) (hb : Inside (root d) b)
    {mid : List Node} (hbefore : b.before = a.before ++ mid) (hstop : b.stop ≤ a.stop) :
    Inside a b := by
  obtain ⟨post, ha'⟩ := ha.before_append
  obtain ⟨post', hb'⟩ := hb.before_append
  obtain ⟨below, hbelow⟩ := b.node.nodes_eq_cons
  rw [ha', hbefore, hbelow] at hb'
  have hkey : a.node.nodes ++ post = mid ++ b.node :: (below ++ post') := by simpa using hb'
  rcases Node.split_append hkey with ⟨q, hq⟩ | ⟨q, rfl, -⟩
  · have hin := inside_of_nodes hq
    rwa [← hbefore] at hin
  · have := b.before_length_lt_stop
    rw [hbefore] at this
    simp only [stop, List.length_append] at this hstop
    omega

/-- In an open and steady document nothing behind an alias has its name. -/
theorem aliasName?_ne_of_leads {d : Node} (hopen : d.Open) (hd : d.Steady) {a r o : Spot}
    (ha : Inside (root d) a) {name : String} (hn : a.node.aliasName? = some name)
    (hr : a.referent = some r) (h : Leads r o) : o.node.aliasName? ≠ some name := by
  intro ho
  have hr' := ha.referent hr
  have ho' := h.inside hr'
  have hstop : o.stop ≤ r.stop := h.stop_le hopen hr'
  have hlt : o.before.length < a.before.length :=
    Nat.lt_of_lt_of_le o.before_length_lt_stop (Nat.le_trans hstop (referent_stop_le hopen ha hr))
  obtain ⟨name', hn', hlast⟩ := referent_eq_some.mp hr
  obtain rfl : name = name' := Option.some.inj (hn.symm.trans hn')
  obtain ⟨later, hb, hc, hlater⟩ := lastCarrier_eq_some.mp hlast
  rcases before_comparable ha ho' with ⟨mid, hmid⟩ | ⟨mid, hmid⟩
  · -- no carrier from `o` to `a`, so `r` comes before `o`, and `o` lies inside `r`
    have hnot := hd a o name (mid ++ [a.node]) ha (isAlias_of_referent hr) (.through hr h) ho
      (by rw [hmid, List.append_assoc])
    rcases Node.split_append (hmid.symm.trans hb) with ⟨post, hpost⟩ | ⟨pre, -, hpre⟩
    · have href : o.referent = some r := by
        refine referent_eq_some.mpr ⟨name, ho, lastCarrier_eq_some.mpr ⟨post, hpost, hc, ?_⟩⟩
        intro n hn
        refine hlater n ?_
        rw [hmid, hpost] at hb
        have : post ++ mid = later := by simpa using hb
        simp [← this, hn]
      exact hopen o r ho' href (inside_of_stop_le hr' ho' hpost hstop)
    · exact hnot r.node (by simp [hpre]) hc
  · simp only [hmid, List.length_append, List.length_cons] at hlt
    omega

end Spot

end YamlAudit
