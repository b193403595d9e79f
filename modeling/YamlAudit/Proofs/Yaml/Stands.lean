import YamlAudit.Proofs.Value.Operands
import YamlAudit.Proofs.Yaml.Evolves

/-!
# Yaml — the values that stand for nodes

What values may stand for the nodes of a graph, told without building them: a scalar is read as its
tag asks for (`Graph.typed?`), unless it is a key that becomes a text, and a collection holds values
that stand for what is in its node (`Filler.Holds`).  A node may lie inside itself, so `Graph.Stands`
is the greatest relation of this kind.

* `Graph.Underway` is what holds while values are built: every container has an owner, the filling
  for which it was made, and holds what its owner asks for unless it is still to be filled.
* `Graph.Underway.stands`: when nothing is left to be filled, every value stands for its node.
-/

open Relation

namespace YamlAudit.Yaml

open Build

namespace Graph

/-- The value that the tag of a node asks for, given the text of the node. -/
def typed? (g : Graph) (old : Bool) (n : Nat) (t : String) : Option Value :=
  (Recipe.ofTag? (g.get n).tag).bind (·.read? old n (g.get n).start t)

/-- How the text of a node may be read: as the tag asks for, or, if the node is a key, as a text. -/
def Reads (g : Graph) (mode : BuildMode) (n : Nat) (t : String) (v : Value) : Prop :=
  g.typed? mode.old n t = some v ∨ g.KeptAsText mode.literalKeys n ∧ v = .text t

/-- What lies directly inside a node. -/
inductive Child (g : Graph) (n : Nat) : Nat → Prop
  | item {m} : m ∈ (g.get n).content.items → g.Child n m
  | key {p} : g.Offers n p → g.Child n p.1
  | value {p} : g.Offers n p → g.Child n p.2

/-- A node is a key or lies inside one. -/
def InKey (g : Graph) (n : Nat) : Prop := ∃ k, g.IsKey k ∧ ReflTransGen g.Child k n

/-- A node in a key lies inside itself, where it has no value. -/
def Looped (g : Graph) (n : Nat) : Prop := TransGen g.Child n n ∧ g.InKey n

/-- An entry comes from a pair of a mapping. -/
def EntryOf (g : Graph) (keyed stands : Nat → Value → Prop) (n : Nat) (e : Value × Value) : Prop :=
  ∃ p, g.Offers n p ∧ keyed p.1 e.1 ∧ stands p.2 e.2

end Graph

/-- A container holds what a node asks for, given what keys and values stand for the nodes in it.
Ordered maps become mappings when they are copied. -/
def Filler.Holds (g : Graph) (keyed stands : Nat → Value → Prop) (n : Nat) :
    Filler → Container → Prop
  | .list, .list vs => ∃ items, (g.get n).content = .sequence items ∧ List.Forall₂ stands items vs
  | .mapping, .mapping es =>
    (g.get n).content.kind = .mapping ∧ ∀ e ∈ es, g.EntryOf keyed stands n e
  | .set, .set ks =>
    (g.get n).content.kind = .mapping ∧ ∀ k ∈ ks, ∃ w, g.EntryOf keyed stands n (k, w)
  | .ordered, .ordered es | .ordered, .mapping es =>
    ∃ items, (g.get n).content = .sequence items ∧
      ∀ e ∈ es, ∃ m ∈ items, g.EntryOf keyed stands m e
  | .pairs, .list vs => ∃ items, (g.get n).content = .sequence items ∧
      List.Forall₂ (fun m v => ∃ k w, v = .tuple [k, w] ∧ g.EntryOf keyed stands m (k, w)) items vs
  | _, _ => False

namespace Graph

/-- One step of what it means that a value stands for a node. -/
def Represents (g : Graph) (mode : BuildMode) (s : Store) (keyed stands : Nat → Value → Prop)
    (n : Nat) (v : Value) : Prop :=
  (∃ t, g.HasText n t ∧ g.Reads mode n t v) ∨ (v = .null ∧ g.Looped n) ∨
  ∃ filler c, v = .ref c ∧ c < s.containers.size ∧
    Recipe.ofTag? (g.get n).tag = some (.collection filler) ∧
    filler.Holds g keyed stands n (s.get c)

/-- A value is the key that comes of a node: of a scalar it is what is read, or a key that was there
and is the same, or the text of that.  Of the keys that come of collections nothing is said. -/
def Keyed (g : Graph) (mode : BuildMode) (key : Nat) (k : Value) : Prop :=
  ∀ t, (g.get key).content = .scalar t → ∃ v k', g.Reads mode key t v ∧ SameKey k' v ∧
    (k = k' ∨ ∃ s, k = .text (Datum.text ⟨s, k'⟩))

/-- A value stands for a node. -/
def Stands (g : Graph) (mode : BuildMode) (s : Store) (n : Nat) (v : Value) : Prop :=
  ∃ stands : Nat → Value → Prop, stands n v ∧
    ∀ n v, stands n v → g.Represents mode s (g.Keyed mode) stands n v

end Graph

/-! ### Laws of what stands for what -/

section Laws

variable {g : Graph} {mode : BuildMode} {s : Store} {keyed keyed' stands stands' : Nat → Value → Prop}
  {n m : Nat} {v : Value}

theorem Graph.EntryOf.mono {e : Value × Value} (h : g.EntryOf keyed stands n e)
    (hkeyed : ∀ n v, keyed n v → keyed' n v) (hstands : ∀ n v, stands n v → stands' n v) :
    g.EntryOf keyed' stands' n e := by
  obtain ⟨p, hp, hk, hv⟩ := h
  exact ⟨p, hp, hkeyed _ _ hk, hstands _ _ hv⟩

theorem Filler.Holds.mono {filler : Filler} {c : Container} (h : filler.Holds g keyed stands n c)
    (hkeyed : ∀ n v, keyed n v → keyed' n v) (hstands : ∀ n v, stands n v → stands' n v) :
    filler.Holds g keyed' stands' n c := by
  unfold Filler.Holds at h ⊢
  split
  · obtain ⟨items, hc, hvs⟩ := h
    exact ⟨items, hc, hvs.imp hstands⟩
  · exact ⟨h.1, fun e he => (h.2 e he).mono hkeyed hstands⟩
  · refine ⟨h.1, fun k hk => ?_⟩
    obtain ⟨w, he⟩ := h.2 k hk
    exact ⟨w, he.mono hkeyed hstands⟩
  · obtain ⟨items, hc, hes⟩ := h
    refine ⟨items, hc, fun e he => ?_⟩
    obtain ⟨m, hm, he⟩ := hes e he
    exact ⟨m, hm, he.mono hkeyed hstands⟩
  · obtain ⟨items, hc, hes⟩ := h
    refine ⟨items, hc, fun e he => ?_⟩
    obtain ⟨m, hm, he⟩ := hes e he
    exact ⟨m, hm, he.mono hkeyed hstands⟩
  · obtain ⟨items, hc, hvs⟩ := h
    refine ⟨items, hc, hvs.imp ?_⟩
    rintro m v ⟨k, w, rfl, he⟩
    exact ⟨k, w, rfl, he.mono hkeyed hstands⟩
  · simp_all

/-- An entry comes from a pair of the node, or from one of an entry in it. -/
theorem Filler.Holds.entry {filler : Filler} {c : Container} {es : List (Value × Value)}
    (h : filler.Holds g keyed stands n c) (hc : c = .mapping es ∨ c = .ordered es)
    {e : Value × Value} (he : e ∈ es) : g.EntryOf keyed stands n e ∨
      ∃ items, (g.get n).content = .sequence items ∧ ∃ m ∈ items, g.EntryOf keyed stands m e := by
  rcases hc with rfl | rfl
  · cases filler with
    | mapping => exact .inl (h.2 e he)
    | ordered => exact .inr (h.imp fun items h => ⟨h.1, h.2 e he⟩)
    | _ => exact h.elim
  · cases filler with
    | ordered => exact .inr (h.imp fun items h => ⟨h.1, h.2 e he⟩)
    | _ => exact h.elim

/-- The values in a list stand for the items of the node, or they are pairs of them. -/
theorem Filler.Holds.items {filler : Filler} {vs : List Value}
    (h : filler.Holds g keyed stands n (.list vs)) :
    ∃ items, (g.get n).content = .sequence items ∧ List.Forall₂ (fun m v => stands m v ∨
      ∃ k w, v = .tuple [k, w] ∧ g.EntryOf keyed stands m (k, w)) items vs := by
  cases filler with
  | list => exact h.imp fun items h => ⟨h.1, h.2.imp fun _ _ => .inl⟩
  | pairs => exact h.imp fun items h => ⟨h.1, h.2.imp fun _ _ => .inr⟩
  | _ => exact h.elim

/-- Only collections are held by containers. -/
theorem Filler.Holds.kind {filler : Filler} {c : Container} (h : filler.Holds g keyed stands n c) :
    (g.get n).content.kind ≠ .scalar := by
  unfold Filler.Holds at h
  split at h
  · obtain ⟨items, hc, -⟩ := h
    simp [hc, NodeContent.kind]
  · simp [h.1]
  · simp [h.1]
  · obtain ⟨items, hc, -⟩ := h
    simp [hc, NodeContent.kind]
  · obtain ⟨items, hc, -⟩ := h
    simp [hc, NodeContent.kind]
  · obtain ⟨items, hc, -⟩ := h
    simp [hc, NodeContent.kind]
  · exact h.elim

namespace Graph

theorem Represents.mono (h : g.Represents mode s keyed stands n v)
    (hkeyed : ∀ n v, keyed n v → keyed' n v) (hstands : ∀ n v, stands n v → stands' n v) :
    g.Represents mode s keyed' stands' n v := by
  rcases h with h | h | ⟨filler, c, hv, hc, htag, hholds⟩
  · exact .inl h
  · exact .inr (.inl h)
  · exact .inr (.inr ⟨filler, c, hv, hc, htag, hholds.mono hkeyed hstands⟩)

theorem Stands.represents (h : g.Stands mode s n v) :
    g.Represents mode s (g.Keyed mode) (g.Stands mode s) n v := by
  obtain ⟨stands, hv, hstands⟩ := h
  exact (hstands n v hv).mono (fun _ _ h => h) fun m w hw => ⟨stands, hw, hstands⟩

/-- What is read from a text is neither a container nor a tuple. -/
theorem Reads.isScalar {t : String} (h : g.Reads mode n t v) : v.IsScalar := by
  rcases h with h | ⟨-, rfl⟩
  · obtain ⟨r, -, hr⟩ := Option.bind_eq_some_iff.mp h
    exact Recipe.isScalar_of_read? hr
  · trivial

theorem Reads.isAtom {t : String} (h : g.Reads mode n t v) : v.IsAtom := h.isScalar.isAtom

/-- Nothing lies inside a scalar. -/
theorem Child.kind (h : g.Child n m) : (g.get n).content.kind ≠ .scalar := by
  cases h with
  | item h => simp [NodeContent.kind_of_mem_items h]
  | key h => simp [h.kind]
  | value h => simp [h.kind]

theorem Looped.kind (h : g.Looped n) : (g.get n).content.kind ≠ .scalar := by
  obtain ⟨m, hm, -⟩ := TransGen.head'_iff.mp h.1
  exact hm.kind

/-- What stands for a scalar is read from its text. -/
theorem Represents.reads (h : g.Represents mode s keyed stands n v) {t : String}
    (ht : (g.get n).content = .scalar t) : g.Reads mode n t v := by
  have hkind : ¬ (g.get n).content.kind ≠ .scalar := by simp [ht, NodeContent.kind]
  rcases h with ⟨t', ht', h⟩ | ⟨-, h⟩ | ⟨filler, c, -, -, -, h⟩
  · rwa [ht'.eq_of_scalar ht] at h
  · exact absurd h.kind hkind
  · exact absurd h.kind hkind

/-- A container that stands for a node holds what the node asks for. -/
theorem Stands.holds {c : Nat} (h : g.Stands mode s n (.ref c)) :
    ∃ filler : Filler, filler.Holds g (g.Keyed mode) (g.Stands mode s) n (s.get c) := by
  rcases h.represents with ⟨t, -, hreads⟩ | ⟨hnull, -⟩ | ⟨filler, c', hc', -, -, hholds⟩
  · exact absurd hreads.isAtom id
  · cases hnull
  · cases hc'
    exact ⟨filler, hholds⟩

end Graph

end Laws

/-! ### Values while they are built -/

namespace Graph

/-- A builder has a value for a node: the one that was noted, or none where a key is in itself. -/
def Given (g : Graph) (b : Builder) (n : Nat) (v : Value) : Prop :=
  b.value n = some v ∨ v = .null ∧ g.Looped n

/-- A value is the key that has been made of a node, where a list becomes a tuple, or the same. -/
def KeyOf (g : Graph) (b : Builder) (key : Nat) (k : Value) : Prop :=
  ∃ v, SameKey k v ∧ (g.Given b key v ∨ ∃ c items, g.Given b key (.ref c) ∧ v = .tuple items)

/-- What holds while values are built from a graph; `todo` are collections to be filled that are not
pending. -/
structure Underway (g : Graph) (mode : BuildMode) (owner : Nat → Filling) (todo : List Filling)
    (b : Builder) : Prop where
  graph : g.Evolves mode.literalKeys b.graph
  size : b.built.size = g.nodes.size
  value : ∀ n v, b.value n = some v → (∃ t, g.HasText n t ∧ g.Reads mode n t v) ∨
    ∃ c, v = .ref c ∧ c < b.store.containers.size ∧ (owner c).node = n
  owned : ∀ c < b.store.containers.size, (owner c).container = c ∧
    Recipe.ofTag? (g.get (owner c).node).tag = some (.collection (owner c).filler)
  filling : ∀ f ∈ todo ++ b.pending.toList, f.container < b.store.containers.size ∧
    owner f.container = f
  filled : ∀ c < b.store.containers.size, owner c ∈ todo ++ b.pending.toList ∨
    (owner c).filler.Holds g (g.KeyOf b) (g.Given b) (owner c).node (b.store.get c)
  blank : ∀ c < b.store.containers.size, (g.get (owner c).node).content = .sequence [] →
    b.store.get c = (owner c).filler.initial
  busy : ∀ m ∈ b.busy, m < g.nodes.size ∧ b.value m = none
  nodup : b.busy.Nodup

variable {g : Graph} {mode : BuildMode} {owner : Nat → Filling} {todo : List Filling}
  {b b' : Builder} {n : Nat} {v : Value} {f : Filling}

theorem Given.mono (hb : ∀ n v, b.value n = some v → b'.value n = some v) (h : g.Given b n v) :
    g.Given b' n v :=
  h.imp (hb n v) id

theorem KeyOf.mono (hb : ∀ n v, b.value n = some v → b'.value n = some v) (h : g.KeyOf b n v) :
    g.KeyOf b' n v := by
  obtain ⟨k, hk, h | ⟨c, items, h, rfl⟩⟩ := h
  · exact ⟨k, hk, .inl (h.mono hb)⟩
  · exact ⟨_, hk, .inr ⟨c, items, h.mono hb, rfl⟩⟩

namespace Underway

theorem evolve (h : g.Underway mode owner todo b) {g' : Graph}
    (hg : g.Evolves mode.literalKeys g') : g.Underway mode owner todo { b with graph := g' } :=
  ⟨hg, h.size, h.value, h.owned, h.filling, h.filled, h.blank, h.busy, h.nodup⟩

theorem eager (h : g.Underway mode owner todo b) (eager : Bool) :
    g.Underway mode owner todo { b with eager } :=
  ⟨h.graph, h.size, h.value, h.owned, h.filling, h.filled, h.blank, h.busy, h.nodup⟩

/-- A node without a value may be begun. -/
theorem begin (h : g.Underway mode owner todo b) (hn : n < g.nodes.size) (hv : b.value n = none)
    (hbusy : n ∉ b.busy) : g.Underway mode owner todo { b with busy := n :: b.busy } where
  graph := h.graph
  size := h.size
  value := h.value
  owned := h.owned
  filling := h.filling
  filled := h.filled
  blank := h.blank
  busy m hm := by
    rcases List.mem_cons.mp hm with rfl | hm
    · exact ⟨hn, hv⟩
    · exact h.busy m hm
  nodup := List.nodup_cons.mpr ⟨hbusy, h.nodup⟩

/-- A new container is owned by the filling it is made for. -/
theorem alloc (h : g.Underway mode owner todo b) (hf : f.container = b.store.containers.size)
    (htag : Recipe.ofTag? (g.get f.node).tag = some (.collection f.filler)) :
    g.Underway mode (Function.update owner f.container f) (f :: todo)
      { b with store := (b.store.add f.filler.initial).2 } := by
  -- the new container comes behind all others and is owned by what is to fill it
  have hold : ∀ k < b.store.containers.size, Function.update owner f.container f k = owner k :=
    fun k hk => Function.update_of_ne (by omega) _ _
  have hnew : Function.update owner f.container f f.container = f := Function.update_self _ _ _
  have hlt : ∀ {k}, k < (b.store.add f.filler.initial).2.containers.size →
      k = f.container ∨ k < b.store.containers.size := by
    intro k hk
    simp only [Store.add, Array.size_push] at hk
    omega
  have hsize : b.store.containers.size < (b.store.add f.filler.initial).2.containers.size := by
    simp [Store.add]
  constructor
  · exact h.graph
  · exact h.size
  · intro n v hv
    refine (h.value n v hv).imp_right ?_
    rintro ⟨k, rfl, hk, hn⟩
    exact ⟨k, rfl, Nat.lt_trans hk hsize, by rw [hold k hk]; exact hn⟩
  · intro k hk
    rcases hlt hk with rfl | hk
    · rw [hnew]
      exact ⟨rfl, htag⟩
    · rw [hold k hk]
      exact h.owned k hk
  · intro f' hf'
    rcases List.mem_cons.mp hf' with rfl | hf'
    · exact ⟨Nat.lt_of_le_of_lt (Nat.le_of_eq hf) hsize, hnew⟩
    · obtain ⟨hlt, howner⟩ := h.filling f' hf'
      exact ⟨Nat.lt_trans hlt hsize, by rw [hold _ hlt]; exact howner⟩
  · intro k hk
    rcases hlt hk with rfl | hk
    · rw [hnew]
      exact .inl List.mem_cons_self
    · rw [hold k hk]
      refine (h.filled k hk).imp (List.mem_cons_of_mem _) fun hholds => ?_
      rw [show (b.store.add f.filler.initial).2.get k = _ from Store.get_add_of_lt hk _]
      exact hholds
  · intro k hk hempty
    rcases hlt hk with rfl | hk
    · rw [hnew, hf]
      simp [Store.add, Store.get, Array.getD]
    · rw [hold k hk] at hempty ⊢
      exact (Store.get_add_of_lt hk _).trans (h.blank k hk hempty)
  · exact h.busy
  · exact h.nodup

/-- A collection to be filled may become a pending one. -/
theorem postpone (h : g.Underway mode owner (f :: todo) b) :
    g.Underway mode owner todo { b with pending := b.pending.push f } := by
  have hmem : ∀ f', f' ∈ todo ++ (b.pending.push f).toList ↔ f' ∈ f :: todo ++ b.pending.toList := by
    intro f'
    simp only [Array.toList_push, List.mem_append, List.mem_cons, List.not_mem_nil, or_false]
    rw [← or_assoc, or_comm, or_assoc]
  exact ⟨h.graph, h.size, h.value, h.owned, fun f' hf' => h.filling f' ((hmem f').mp hf'),
    fun c hc => (h.filled c hc).imp_left (hmem _).mpr, h.blank, h.busy, h.nodup⟩

/-- Pending collections may be taken up. -/
theorem takeUp (h : g.Underway mode owner [] b) :
    g.Underway mode owner b.pending.toList { b with pending := #[] } := by
  have hmem : b.pending.toList ++ (#[] : Array Filling).toList = [] ++ b.pending.toList := by simp
  refine ⟨h.graph, h.size, h.value, h.owned, fun f hf => ?_, fun c hc => ?_, h.blank, h.busy,
    h.nodup⟩
  · rw [hmem] at hf
    exact h.filling f hf
  · rw [hmem]
    exact h.filled c hc

/-- While a collection is being filled anything may be put into it, if there is anything. -/
theorem put (h : g.Underway mode owner todo b) (hf : f ∈ todo) {c : Container}
    (hc : (g.get f.node).content = .sequence [] → c = f.filler.initial) :
    g.Underway mode owner todo { b with store := b.store.put f.container c } := by
  obtain ⟨hlt, howner⟩ := h.filling f (List.mem_append_left _ hf)
  refine ⟨h.graph, h.size, fun n v hv => ?_, ?_, ?_, ?_, ?_, h.busy, h.nodup⟩
  · simpa using h.value n v hv
  · simpa using h.owned
  · simpa using h.filling
  · intro k hk
    rw [Store.size_put] at hk
    by_cases hne : k = f.container
    · rw [hne, howner]
      exact .inl (List.mem_append_left _ hf)
    · rw [Store.get_put_of_ne hne]
      exact h.filled k hk
  · intro k hk hempty
    rw [Store.size_put] at hk
    by_cases hne : k = f.container
    · rw [hne, howner] at hempty ⊢
      exact (Store.get_put_self hlt c).trans (hc hempty)
    · exact (Store.get_put_of_ne hne c).trans (h.blank k hk hempty)

/-- A collection that holds what its owner asks for has been filled. -/
theorem done (h : g.Underway mode owner (f :: todo) b)
    (hf : f.filler.Holds g (g.KeyOf b) (g.Given b) f.node (b.store.get f.container)) :
    g.Underway mode owner todo b := by
  refine ⟨h.graph, h.size, h.value, h.owned, fun f' hf' => h.filling f' (List.mem_cons_of_mem _ hf'),
    fun k hk => ?_, h.blank, h.busy, h.nodup⟩
  rcases h.filled k hk with hmem | hholds
  · rcases List.mem_cons.mp hmem with heq | hmem
    · refine .inr ?_
      rw [heq, ← (h.owned k hk).1, heq]
      exact hf
    · exact .inl hmem
  · exact .inr hholds

/-- When the value of a node that was begun is noted, all is as it should be. -/
theorem note (h : g.Underway mode owner todo b) (hn : n < g.nodes.size) (hnone : b.value n = none)
    (hv : (∃ t, g.HasText n t ∧ g.Reads mode n t v) ∨
      ∃ c, v = .ref c ∧ c < b.store.containers.size ∧ (owner c).node = n) (eager : Bool) :
    g.Underway mode owner todo (b.note n v eager) := by
  have hn : n < b.built.size := h.size ▸ hn
  have hvalue := Builder.value_note v eager hn
  have hmono : ∀ m w, b.value m = some w → (b.note n v eager).value m = some w :=
    fun _ _ => Builder.value_note_of_some v eager hn hnone
  refine ⟨h.graph, ?_, fun m w hw => ?_, h.owned, h.filling, fun c hc => ?_, h.blank,
    fun m hm => ?_, h.nodup.erase n⟩
  · simpa [Builder.note] using h.size
  · rw [hvalue] at hw
    split at hw
    · next hmn =>
      cases hw
      rw [hmn]
      exact hv
    · exact h.value m w hw
  · exact (h.filled c hc).imp_right fun hholds =>
      hholds.mono (fun _ _ => KeyOf.mono hmono) fun _ _ => Given.mono hmono
  · have hne : m ≠ n := fun hmn => (h.nodup.mem_erase_iff.mp hm).1 hmn
    obtain ⟨hlt, hm⟩ := h.busy m (List.mem_of_mem_erase hm)
    exact ⟨hlt, by rw [hvalue, if_neg hne]; exact hm⟩

/-- A builder has a value for every node that it has noted one for. -/
theorem represents (h : g.Underway mode owner [] b) (hpending : b.pending = #[])
    (hv : g.Given b n v) : g.Represents mode b.store (g.KeyOf b) (g.Given b) n v := by
  rcases hv with hv | hv
  · rcases h.value n v hv with htext | ⟨c, rfl, hc, rfl⟩
    · exact .inl htext
    · refine .inr (.inr ⟨_, c, rfl, hc, (h.owned c hc).2, (h.filled c hc).resolve_left ?_⟩)
      simp [hpending]
  · exact .inr (.inl hv)

/-- When nothing is left to be filled, every value stands for its node. -/
theorem stands (h : g.Underway mode owner [] b) (hpending : b.pending = #[])
    (hv : g.Given b n v) : g.Stands mode b.store n v := by
  refine ⟨g.Given b, hv, fun m w hw => (h.represents hpending hw).mono (fun key k hk t ht => ?_)
    fun _ _ h => h⟩
  obtain ⟨v', hsame, hk | ⟨c, items, hk, -⟩⟩ := hk
  · exact ⟨v', k, (h.represents hpending hk).reads ht, hsame, .inl rfl⟩
  · exact absurd ((h.represents hpending hk).reads ht).isAtom id

end Underway

end Graph

end YamlAudit.Yaml
