import YamlAudit.Proofs.Basic
import YamlAudit.Yaml.Build

/-!
# Yaml — what is kept while values are built

A `Plan` is a graph from which values are to be built, with a rank that falls from every node to the
nodes in it and with the nodes that are keys kept as they are written.  Building only ever
gives such a node another tag (`Graph.Retags`).

* `Plan.Shaped` says that a value has the shape of its node: a sequence is a list of the values of its
  items, a mapping has an entry for each of its pairs, a scalar is no container.
* `Plan.Kept` is the invariant: a node that has a value has one of its shape, or its container is
  among those that are still to be filled; no two nodes have the same container.
* `Builder.Grows` is the frame: values stay what they are, and containers that are there already are
  not touched.
-/

namespace YamlAudit

/-- A value is no container. -/
def Value.IsAtom : Value → Prop
  | .ref _ => False
  | _ => True

/-- A value is neither a container nor a tuple. -/
def Value.IsScalar : Value → Prop
  | .ref _ | .tuple _ => False
  | _ => True

/-- A value is what a text is read as that stands neither for itself nor for bytes. -/
def Value.IsTyped : Value → Prop
  | .null | .bool _ | .int _ | .float _ | .nan _ | .date _ | .moment _ => True
  | _ => False

theorem Value.IsTyped.isScalar {v : Value} (h : v.IsTyped) : v.IsScalar := by
  cases v with
  | tuple | ref => exact h.elim
  | _ => trivial

theorem Value.IsScalar.isAtom {v : Value} (h : v.IsScalar) : v.IsAtom := by
  cases v with
  | ref => exact h.elim
  | _ => trivial

/-- No key comes twice. -/
def DistinctKeys (es : List (Value × Value)) : Prop :=
  es.Pairwise fun a b => a.1.sameKey b.1 = false

theorem lookupKey_eq_none {key : Value} {es : List (Value × Value)} :
    lookupKey key es = none ↔ ∀ e ∈ es, e.1.sameKey key = false := by
  induction es with
  | nil => simp [lookupKey]
  | cons e rest ih =>
      obtain ⟨k, v⟩ := e
      rw [lookupKey]
      cases hk : k.sameKey key <;> simp [hk, ih]

/-- A key that is not there is put at the end. -/
theorem putKey_of_lookupKey {key : Value} (value : Value) {es : List (Value × Value)}
    (h : lookupKey key es = none) : putKey key value es = es ++ [(key, value)] := by
  induction es with
  | nil => rfl
  | cons e rest ih =>
      obtain ⟨k, v⟩ := e
      rw [lookupKey] at h
      cases hk : k.sameKey key with
      | true => simp [hk] at h
      | false => simp_all [putKey]

/-- After a value has been put under a key, that is the only key that may be new. -/
theorem key_of_mem_putKey {k v : Value} {e : Value × Value} {es : List (Value × Value)}
    (h : e ∈ putKey k v es) : e.1 = k ∨ ∃ e' ∈ es, e'.1 = e.1 := by
  induction es with
  | nil => exact .inl (congrArg Prod.fst (List.mem_singleton.mp h))
  | cons first rest ih =>
      obtain ⟨k', v'⟩ := first
      rw [putKey] at h
      split at h
      · rcases List.mem_cons.mp h with rfl | h
        · exact .inr ⟨_, List.mem_cons_self, rfl⟩
        · exact .inr ⟨e, List.mem_cons_of_mem _ h, rfl⟩
      · rcases List.mem_cons.mp h with rfl | h
        · exact .inr ⟨_, List.mem_cons_self, rfl⟩
        · obtain hk | ⟨e', he', hk⟩ := ih h
          · exact .inl hk
          · exact .inr ⟨e', List.mem_cons_of_mem _ he', hk⟩

/-- A value may be put under any key. -/
theorem DistinctKeys.putKey {es : List (Value × Value)} (h : DistinctKeys es) (k v : Value) :
    DistinctKeys (YamlAudit.putKey k v es) := by
  induction es with
  | nil => exact List.pairwise_singleton _ _
  | cons first rest ih =>
      obtain ⟨k', v'⟩ := first
      obtain ⟨hfirst, hrest⟩ := List.pairwise_cons.mp h
      rw [YamlAudit.putKey]
      split
      · exact List.pairwise_cons.mpr ⟨hfirst, hrest⟩
      · next hne =>
        refine List.pairwise_cons.mpr ⟨fun e he => ?_, ih hrest⟩
        rcases key_of_mem_putKey he with hk | ⟨e', he', hk⟩
        · rw [hk]
          exact Bool.eq_false_iff.mpr hne
        · rw [← hk]
          exact hfirst e' he'

theorem Store.get_put_of_ne {s : Store} {n k : Nat} (h : k ≠ n) (c : Container) :
    (s.put n c).get k = s.get k := by
  simp [put, get, Array.getD_eq_getD_getElem?, Ne.symm h]

theorem Store.get_put_self {s : Store} {n : Nat} (h : n < s.containers.size) (c : Container) :
    (s.put n c).get n = c := by
  simp [put, get, Array.getD_eq_getD_getElem?, h]

@[simp] theorem Store.size_put (s : Store) (n : Nat) (c : Container) :
    (s.put n c).containers.size = s.containers.size := by
  simp [put]

theorem Store.get_add_of_lt {s : Store} {n : Nat} (h : n < s.containers.size) (c : Container) :
    (s.add c).2.get n = s.get n := by
  simp [add, get, Array.getD, h, Nat.lt_succ_of_lt h, Array.getElem_push_lt]

namespace Yaml

/-- The nodes whose values lie inside the value of a node. -/
def NodeContent.values : NodeContent → List Nat
  | .scalar _ => []
  | .sequence items => items
  | .mapping pairs _ => pairs.map Prod.snd

/-- The nodes that are keys in a node. -/
def NodeContent.keys : NodeContent → List Nat
  | .mapping pairs _ => pairs.map Prod.fst
  | _ => []

/-! ### Other tags for scalars -/

/-- A graph differs from another one by scalars that have become texts, if at all. -/
structure Graph.Retags (g g' : Graph) : Prop where
  size : g'.nodes.size = g.nodes.size
  content : ∀ n, (g'.get n).content = (g.get n).content
  tag : ∀ n, (g'.get n).tag = (g.get n).tag ∨
    (g.get n).content.kind = .scalar ∧ (g'.get n).tag = ScalarType.text.tag

namespace Graph

variable {g g' g'' : Graph}

theorem Retags.refl (g : Graph) : g.Retags g := ⟨rfl, fun _ => rfl, fun _ => .inl rfl⟩

theorem Retags.trans (h : g.Retags g') (h' : g'.Retags g'') : g.Retags g'' where
  size := Eq.trans h'.size h.size
  content n := (h'.content n).trans (h.content n)
  tag n := by
    rcases h'.tag n with ht' | ⟨hk, ht'⟩
    · rw [ht']
      exact h.tag n
    · rw [h.content] at hk
      exact .inr ⟨hk, ht'⟩

/-- A node that is a text stays one. -/
theorem Retags.text (h : g.Retags g') {n : Nat} (ht : (g.get n).tag = ScalarType.text.tag) :
    (g'.get n).tag = ScalarType.text.tag :=
  (h.tag n).elim (fun h => h.trans ht) And.right

theorem get_setTag (g : Graph) (n k : Nat) (tag : String) :
    (g.setTag n tag).get k =
      if k = n ∧ n < g.nodes.size then { g.get k with tag := tag } else g.get k := by
  simp only [setTag, put, get, Array.getD_eq_getD_getElem?, Array.getElem?_setIfInBounds]
  by_cases hk : k = n
  · subst hk
    by_cases hlt : k < g.nodes.size <;> simp [hlt]
  · simp [hk, Ne.symm hk]

/-- To make a text of a scalar. -/
theorem Retags.setTag {n : Nat} (hk : (g.get n).content.kind = .scalar) :
    g.Retags (g.setTag n ScalarType.text.tag) where
  size := by simp [Graph.setTag, put]
  content k := by
    rw [get_setTag]
    split <;> rfl
  tag k := by
    rw [get_setTag]
    split
    · next h =>
      rw [h.1]
      exact .inr ⟨hk, rfl⟩
    · exact .inl rfl

end Graph

/-! ### Builders -/

/-- The value of a node, if it has been made. -/
def Builder.value (b : Builder) (n : Nat) : Option Value := b.built.getD n none

/-- How much there is left to do: the nodes without a value and the collections without content. -/
def Builder.left (b : Builder) : Nat :=
  b.pending.size + b.built.toList.countP Option.isNone

/-- What was there stays: values, and containers.  New values have new containers. -/
structure Builder.Grows (b b' : Builder) : Prop where
  graph : b.graph.Retags b'.graph
  built : ∀ n v, b.value n = some v → b'.value n = some v
  size : b.store.containers.size ≤ b'.store.containers.size
  kept : ∀ c < b.store.containers.size, b'.store.get c = b.store.get c
  fresh : ∀ n c, b.value n = none → b'.value n = some (.ref c) → b.store.containers.size ≤ c
  busy : b'.busy = b.busy

namespace Builder.Grows

variable {b b' b'' : Builder}

theorem refl (b : Builder) : b.Grows b :=
  ⟨.refl _, fun _ _ h => h, Nat.le_refl _, fun _ _ => rfl, fun _ _ h h' => by simp [h] at h', rfl⟩

theorem trans (h : b.Grows b') (h' : b'.Grows b'') : b.Grows b'' where
  graph := h.graph.trans h'.graph
  built n v hv := h'.built n v (h.built n v hv)
  size := Nat.le_trans h.size h'.size
  kept c hc := (h'.kept c (Nat.lt_of_lt_of_le hc h.size)).trans (h.kept c hc)
  fresh n c hn hc := by
    cases hv : b'.value n with
    | none => exact Nat.le_trans h.size (h'.fresh n c hv hc)
    | some v =>
        rw [h'.built n v hv] at hc
        exact h.fresh n c hn (hv.trans hc)
  busy := h'.busy.trans h.busy

/-- A container that no node has is had by no node later. -/
theorem unowned (h : b.Grows b') {c m : Nat} (hc : c < b.store.containers.size)
    (hm : b'.value m = some (.ref c)) : b.value m = some (.ref c) := by
  cases hv : b.value m with
  | none => exact absurd (h.fresh m c hv hm) (by omega)
  | some v => exact (h.built m v hv).symm.trans hm

/-- A new container. -/
theorem alloc (b : Builder) (c : Container) : b.Grows { b with store := (b.store.add c).2 } where
  graph := .refl _
  built _ _ h := h
  size := by simp [Store.add]
  kept _ hk := Store.get_add_of_lt hk c
  fresh n k hn hk := absurd (hn.symm.trans hk) (by simp)
  busy := rfl

/-- To fill a container that was not there. -/
theorem put (h : b.Grows b') {c : Nat} (hc : b.store.containers.size ≤ c) (content : Container) :
    b.Grows { b' with store := b'.store.put c content } where
  graph := h.graph
  built := h.built
  size := by simpa using h.size
  kept k hk := (Store.get_put_of_ne (by omega) content).trans (h.kept k hk)
  fresh := h.fresh
  busy := h.busy

end Builder.Grows

/-! ### Plans -/

/-- A graph from which values are to be built. -/
structure Plan where
  graph : Graph
  /-- The nodes that are keys kept as they are written. -/
  literal : Nat → Prop
  rank : Nat → Nat

namespace Plan

/-- The number of nodes. -/
def size (p : Plan) : Nat := p.graph.nodes.size

/-- The content of a node. -/
def content (p : Plan) (n : Nat) : NodeContent := (p.graph.get n).content

/-- The tag of a node. -/
def tag (p : Plan) (n : Nat) : String := (p.graph.get n).tag

/-- No node lies inside itself, there are no merge keys, sequences are lists, and a key that is kept
as it is written and is a value too is a text anyway. -/
structure Sound (p : Plan) : Prop where
  values : ∀ n < p.size, ∀ c ∈ (p.content n).values,
    c < p.size ∧ p.rank c < p.rank n ∧ (p.literal c → p.tag c = ScalarType.text.tag)
  keys : ∀ n < p.size, ∀ k ∈ (p.content n).keys, k < p.size ∧ p.rank k < p.rank n ∧
    p.tag k ≠ ScalarType.merge.tag ∧
    (p.tag k = ScalarType.value.tag → (p.content k).kind = .scalar)
  literal : ∀ k, p.literal k → (p.content k).kind = .scalar
  unmerged : ∀ n < p.size, ∀ pairs merged, p.content n = .mapping pairs merged → merged = none
  tags : ∀ n < p.size, (p.content n).kind = .sequence →
    Build.Recipe.ofTag? (p.tag n) ≠ some (.collection .ordered) ∧
      Build.Recipe.ofTag? (p.tag n) ≠ some (.collection .pairs)

/-- An entry comes from a pair, given the values of the nodes. -/
def IsEntry (p : Plan) (value : Nat → Option Value) (q : Nat × Nat) (e : Value × Value) : Prop :=
  value q.2 = some e.2 ∧ (p.literal q.1 → ∀ t, p.content q.1 = .scalar t → e.1 = .text t)

/-- A container has the content that its node asks for, given the values of the nodes. -/
def Holds (p : Plan) (value : Nat → Option Value) (n : Nat) (c : Container) : Prop :=
  match p.content n with
  | .scalar _ => False
  | .sequence items => ∃ vs, c = .list vs ∧ List.Forall₂ (fun i v => value i = some v) items vs
  | .mapping pairs _ =>
    (∃ es, c = .mapping es ∧ List.Forall₂ (p.IsEntry value) pairs es ∧ DistinctKeys es) ∨
    p.tag n ≠ mappingTag ∧ ∃ vs, c = .set vs

/-- A value has the shape of its node. -/
def Shaped (p : Plan) (b : Builder) (n : Nat) (v : Value) : Prop :=
  (v.IsAtom ∧ (p.content n).kind ≠ .sequence ∧
    ((p.content n).kind = .mapping → p.tag n ≠ mappingTag)) ∨
  ∃ c, v = .ref c ∧ p.Holds b.value n (b.store.get c)

/-- A collection is to be filled as its node asks for. -/
structure Fits (p : Plan) (f : Filling) : Prop where
  bound : f.node < p.size
  plain : (p.content f.node).kind = .sequence → f.filler ≠ .ordered ∧ f.filler ≠ .pairs
  set : f.filler = .set → (p.content f.node).kind = .mapping → p.tag f.node ≠ mappingTag

/-- What is kept while values are built; `todo` are collections to be filled that are not pending. -/
structure Kept (p : Plan) (todo : List Filling) (b : Builder) : Prop where
  graph : p.graph.Retags b.graph
  size : b.built.size = p.size
  bound : ∀ n c, b.value n = some (.ref c) → c < b.store.containers.size
  own : ∀ n m c, b.value n = some (.ref c) → b.value m = some (.ref c) → n = m
  shaped : ∀ n v, b.value n = some v →
    p.Shaped b n v ∨ ∃ f ∈ todo ++ b.pending.toList, f.node = n ∧ v = .ref f.container
  filling : ∀ f ∈ todo ++ b.pending.toList, p.Fits f ∧ f.container < b.store.containers.size ∧
    ∀ m, b.value m = some (.ref f.container) → m = f.node
  apart : ∀ f ∈ todo ++ b.pending.toList, ∀ f' ∈ todo ++ b.pending.toList,
    f.container = f'.container → f.node = f'.node
  literal : ∀ k v, p.literal k → b.value k = some v → ∀ t, p.content k = .scalar t → v = .text t
  busy : ∀ m ∈ b.busy, m < p.size ∧ b.value m = none
  nodup : b.busy.Nodup

variable {p : Plan} {b b' : Builder} {todo : List Filling}

/-- Where an entry comes from only depends on values that are there to stay. -/
theorem IsEntry.mono {value value' : Nat → Option Value} {q : Nat × Nat} {e : Value × Value}
    (h : p.IsEntry value q e) (hv : ∀ n v, value n = some v → value' n = some v) :
    p.IsEntry value' q e :=
  ⟨hv _ _ h.1, h.2⟩

/-- What a container holds only depends on values that are there to stay. -/
theorem Holds.mono {value value' : Nat → Option Value} {n : Nat} {c : Container}
    (h : p.Holds value n c) (hv : ∀ n v, value n = some v → value' n = some v) :
    p.Holds value' n c := by
  unfold Holds at h ⊢
  split
  · next hc => rw [hc] at h; exact h
  · next hc =>
    rw [hc] at h
    obtain ⟨vs, rfl, h⟩ := h
    exact ⟨vs, rfl, h.imp fun _ _ => hv _ _⟩
  · next hc =>
    rw [hc] at h
    rcases h with ⟨es, rfl, h, hd⟩ | h
    · exact .inl ⟨es, rfl, h.imp fun _ _ h => h.mono hv, hd⟩
    · exact .inr h

/-- A value keeps its shape as long as its container keeps its content. -/
theorem Shaped.mono {n : Nat} {v : Value} (h : p.Shaped b n v)
    (hv : ∀ n v, b.value n = some v → b'.value n = some v)
    (hc : ∀ c, v = .ref c → b'.store.get c = b.store.get c) : p.Shaped b' n v := by
  rcases h with h | ⟨c, rfl, h⟩
  · exact .inl h
  · refine .inr ⟨c, rfl, ?_⟩
    rw [hc c rfl]
    exact h.mono hv

/-- A tag in a graph that is being built from is the one that was asked for, or a scalar's. -/
theorem Kept.tag (h : p.Kept todo b) (n : Nat) :
    (b.graph.get n).tag = p.tag n ∨
      (p.content n).kind = .scalar ∧ (b.graph.get n).tag = ScalarType.text.tag :=
  h.graph.tag n

theorem Kept.content (h : p.Kept todo b) (n : Nat) : (b.graph.get n).content = p.content n :=
  h.graph.content n

/-- Other tags for scalars change nothing. -/
theorem Kept.retag (h : p.Kept todo b) {g : Graph} (hg : b.graph.Retags g) :
    p.Kept todo { b with graph := g } :=
  ⟨h.graph.trans hg, h.size, h.bound, h.own, h.shaped, h.filling, h.apart, h.literal, h.busy,
    h.nodup⟩

/-- Nor does it matter whether collections are filled at once. -/
theorem Kept.eager (h : p.Kept todo b) (eager : Bool) : p.Kept todo { b with eager } :=
  ⟨h.graph, h.size, h.bound, h.own, h.shaped, h.filling, h.apart, h.literal, h.busy,
    h.nodup⟩

/-- A node without a value may be begun. -/
theorem Kept.begin (h : p.Kept todo b) {n : Nat} (hn : n < p.size) (hv : b.value n = none)
    (hbusy : n ∉ b.busy) : p.Kept todo { b with busy := n :: b.busy } where
  graph := h.graph
  size := h.size
  bound := h.bound
  own := h.own
  shaped := h.shaped
  filling := h.filling
  apart := h.apart
  literal := h.literal
  busy m hm := by
    rcases List.mem_cons.mp hm with rfl | hm
    · exact ⟨hn, hv⟩
    · exact h.busy m hm
  nodup := List.nodup_cons.mpr ⟨hbusy, h.nodup⟩

/-- A new container belongs to nobody yet; it is to be filled. -/
theorem Kept.alloc (h : p.Kept todo b) {f : Filling} (hf : p.Fits f)
    (hc : f.container = b.store.containers.size) (c : Container) :
    p.Kept (f :: todo) { b with store := (b.store.add c).2 } where
  graph := h.graph
  size := h.size
  bound n k hk := by
    have := h.bound n k hk
    simp only [Store.add, Array.size_push]
    omega
  own := h.own
  shaped n v hv := by
    rcases h.shaped n v hv with hs | ⟨f', hf', hn⟩
    · refine .inl (hs.mono (fun _ _ h => h) fun k hk => ?_)
      exact Store.get_add_of_lt (h.bound n k (hk ▸ hv)) c
    · exact .inr ⟨f', List.mem_cons_of_mem _ hf', hn⟩
  filling f' hf' := by
    simp only [Store.add, Array.size_push]
    rcases List.mem_cons.mp hf' with rfl | hf'
    · refine ⟨hf, by omega, fun m hm => ?_⟩
      have := h.bound m _ hm
      omega
    · obtain ⟨h₁, h₂, h₃⟩ := h.filling f' hf'
      exact ⟨h₁, by omega, h₃⟩
  apart f₁ h₁ f₂ h₂ he := by
    -- containers that are filled later lie before the new one
    have hlt : ∀ f' ∈ todo ++ b.pending.toList, f'.container < f.container :=
      fun f' hf' => hc ▸ (h.filling f' hf').2.1
    rcases List.mem_cons.mp h₁ with rfl | hm₁ <;> rcases List.mem_cons.mp h₂ with rfl | hm₂
    · rfl
    · exact absurd he (Nat.ne_of_gt (hlt f₂ hm₂))
    · exact absurd he (Nat.ne_of_lt (hlt f₁ hm₁))
    · exact h.apart f₁ hm₁ f₂ hm₂ he
  literal := h.literal
  busy := h.busy
  nodup := h.nodup

/-- A collection to be filled may become a pending one. -/
theorem Kept.postpone {f : Filling} (h : p.Kept (f :: todo) b) :
    p.Kept todo { b with pending := b.pending.push f } := by
  have hmem : ∀ f', f' ∈ todo ++ (b.pending.push f).toList ↔ f' ∈ f :: todo ++ b.pending.toList := by
    intro f'
    simp only [Array.toList_push, List.mem_append, List.mem_cons, List.not_mem_nil, or_false]
    rw [← or_assoc, or_comm, or_assoc]
  exact ⟨h.graph, h.size, h.bound, h.own, fun n v hv => (h.shaped n v hv).imp id
    fun ⟨f', hf', hn⟩ => ⟨f', (hmem f').mpr hf', hn⟩, fun f' hf' => h.filling f' ((hmem f').mp hf'),
    fun f₁ h₁ f₂ h₂ => h.apart f₁ ((hmem f₁).mp h₁) f₂ ((hmem f₂).mp h₂), h.literal, h.busy, h.nodup⟩

/-- Pending collections may be taken up. -/
theorem Kept.takeUp (h : p.Kept [] b) : p.Kept b.pending.toList { b with pending := #[] } := by
  have hmem : b.pending.toList ++ (#[] : Array Filling).toList = [] ++ b.pending.toList := by simp
  refine ⟨h.graph, h.size, h.bound, h.own, fun n v hv => ?_, fun f hf => ?_, ?_, h.literal, h.busy,
    h.nodup⟩
  · rw [hmem]
    exact h.shaped n v hv
  · rw [hmem] at hf
    exact h.filling f hf
  · rw [hmem]
    exact h.apart

/-- A collection is filled. -/
theorem Kept.fill {f : Filling} (h : p.Kept (f :: todo) b) {c : Container}
    (hc : p.Holds b.value f.node c) : p.Kept todo { b with store := b.store.put f.container c } where
  graph := h.graph
  size := h.size
  bound n k hk := by simpa using h.bound n k hk
  own := h.own
  shaped n v hv := by
    obtain ⟨-, hlt, howner⟩ := h.filling f (by simp)
    -- the value in question is the container that is filled, or it is left as it was
    by_cases hn : v = .ref f.container
    · subst hn
      rw [howner n hv]
      exact .inl (.inr ⟨_, rfl, by rw [Store.get_put_self hlt]; exact hc⟩)
    · rcases h.shaped n v hv with hs | ⟨f', hf', hfn, rfl⟩
      · refine .inl (hs.mono (fun _ _ h => h) fun k hk => ?_)
        refine Store.get_put_of_ne ?_ c
        rintro rfl
        exact hn hk
      · rcases List.mem_cons.mp hf' with rfl | hf'
        · exact absurd rfl hn
        · exact .inr ⟨f', hf', hfn, rfl⟩
  filling f' hf' := by
    obtain ⟨h₁, h₂, h₃⟩ := h.filling f' (List.mem_cons_of_mem _ hf')
    exact ⟨h₁, by simpa using h₂, h₃⟩
  apart f₁ h₁ f₂ h₂ := h.apart f₁ (List.mem_cons_of_mem _ h₁) f₂ (List.mem_cons_of_mem _ h₂)
  literal := h.literal
  busy := h.busy
  nodup := h.nodup

end Plan

end Yaml

end YamlAudit
