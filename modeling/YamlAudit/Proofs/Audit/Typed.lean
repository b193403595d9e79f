import YamlAudit.Proofs.Audit.Shape
import YamlAudit.Proofs.Yaml.Makes

/-!
# Audit — values keep their types

Every value of a loaded document stands for a node of the graph of its text, and the path to the value
is one to the node (`Graph.Leads`).  So a scalar is read as its tag asks for wherever it lies, unless
it is a key as well.

* `Graph.Shows.find?`: what lies at a path of a value stands for what lies at the path of its node.
* `Graph.Stands.plain`: copying a value with texts for keys changes nothing about this.
* `ValueReader.exists_node`: the values read from a text, whether keys are kept as written or not.
* `Loader.exists_node_of_load`: the values of a loaded document.
* `Loader.exists_text_of_load`: a scalar that is a key as well may have become a text.
-/

namespace YamlAudit

open Yaml Build

namespace Yaml.Graph

/-- One step down from a node: to an item of a sequence, to a value under a key of a mapping, or, in
an ordered map, to a value under a key of one of its entries. -/
inductive Step (g : Graph) (mode : BuildMode) (n : Nat) : Segment → Nat → Prop
  | item {items i m} : (g.get n).content = .sequence items → 0 ≤ i → items[i.toNat]? = some m →
      g.Step mode n (.index i) m
  | member {p name} : g.Offers n p → g.Keyed mode p.1 (.text name) → g.Step mode n (.key name) p.2
  | entry {items m p name} : (g.get n).content = .sequence items → m ∈ items → g.Offers m p →
      g.Keyed mode p.1 (.text name) → g.Step mode n (.key name) p.2

/-- A path leads from a node to a node. -/
inductive Leads (g : Graph) (mode : BuildMode) : Nat → List Segment → Nat → Prop
  | here {n} : g.Leads mode n [] n
  | step {n segment m rest k} : g.Step mode n segment m → g.Leads mode m rest k →
      g.Leads mode n (segment :: rest) k

/-- A value in the place of a node: it stands for the node, or, if the node is an entry of a list of
pairs, it is that pair. -/
def Shows (g : Graph) (mode : BuildMode) (s : Store) (n : Nat) (v : Value) : Prop :=
  g.Stands mode s n v ∨
    ∃ k w, v = .tuple [k, w] ∧ g.EntryOf (g.Keyed mode) (g.Stands mode s) n (k, w)

variable {g : Graph} {mode : BuildMode} {s : Store} {n : Nat} {v : Value}

/-! ### Paths -/

/-- A step down in a value is a step down in its node. -/
theorem Stands.step {d x : Datum} {segment : Segment} (h : g.Stands mode d.store n d.value)
    (hx : d.step? segment = some x) :
    ∃ m, g.Step mode n segment m ∧ g.Shows mode x.store m x.value := by
  obtain ⟨c, w, hv, rfl, hw⟩ := Datum.step?_eq_some hx
  rw [hv] at h
  obtain ⟨filler, hholds⟩ := h.holds
  rcases hw with ⟨vs, i, hget, rfl, hi, hw⟩ | ⟨es, name, hget, rfl, hw⟩
  · rw [hget] at hholds
    obtain ⟨items, hc, hvs⟩ := hholds.items
    obtain ⟨m, hm, hshows⟩ := exists_getElem?_of_forall₂ hvs hw
    exact ⟨m, .item hc hi hm, hshows⟩
  · rcases hholds.entry hget hw with ⟨p, hp, hk, hstands⟩ | ⟨items, hc, m, hm, p, hp, hk, hstands⟩
    · exact ⟨p.2, .member hp hk, .inl hstands⟩
    · exact ⟨p.2, .entry hc hm hp hk, .inl hstands⟩

/-- What lies at a path of a value stands for what lies at the path of its node. -/
theorem Shows.find? {path : List Segment} : ∀ {n : Nat} {d x : Datum},
    g.Shows mode d.store n d.value → d.find? path = some x →
      ∃ m, g.Leads mode n path m ∧ g.Shows mode x.store m x.value := by
  induction path with
  | nil =>
      rintro n d _ h ⟨⟩
      exact ⟨n, .here, h⟩
  | cons segment rest ih =>
      intro n d x h hx
      obtain ⟨y, hy, hrest⟩ := Option.bind_eq_some_iff.mp hx
      rcases h with h | ⟨k, w, hv, -⟩
      · obtain ⟨m, hstep, hm⟩ := h.step hy
        obtain ⟨k, hleads, hk⟩ := ih hm hrest
        exact ⟨k, .step hstep hleads, hk⟩
      · -- nothing lies below a pair
        obtain ⟨c, _, hc, -⟩ := Datum.step?_eq_some hy
        cases hv.symm.trans hc

/-- What is shown of a scalar is read from its text. -/
theorem Shows.reads (h : g.Shows mode s n v) {t : String} (ht : (g.get n).content = .scalar t) :
    g.Reads mode n t v := by
  rcases h with h | ⟨k, w, -, p, hp, -⟩
  · exact h.represents.reads ht
  · have hkind := hp.kind
    rw [ht] at hkind
    cases hkind

/-! ### Copies -/

/-- The text of a key that comes of a node is another such key. -/
theorem Keyed.text {key : Nat} {k : Value} (h : g.Keyed mode key k) (s : Store) :
    g.Keyed mode key (.text (Datum.text ⟨s, k⟩)) := by
  intro t ht
  obtain ⟨v, k', hreads, hsame, hk⟩ := h t ht
  refine ⟨v, k', hreads, hsame, .inr ?_⟩
  rcases hk with rfl | ⟨s', rfl⟩
  · exact ⟨s, rfl⟩
  · exact ⟨s', rfl⟩

end Yaml.Graph

namespace Yaml

/-- The copy of a container holds what the container holds, if copies stand for what they are copied
from. -/
theorem Filler.Holds.plain {g : Graph} {mode : BuildMode} {s : Store} {n : Nat}
    {stands stands' : Nat → Value → Prop} {filler : Filler} {c : Container}
    (h : filler.Holds g (g.Keyed mode) stands n c) (hstands : ∀ n v, stands n v → stands' n v)
    (hcopy : ∀ n v, stands n v → stands' n (s.copyOf v)) :
    filler.Holds g (g.Keyed mode) stands' n (s.plainContainer c) := by
  have hentry : ∀ {n e e'}, g.EntryOf (g.Keyed mode) stands n e' →
      e.1 = .text (Datum.text ⟨s, e'.1⟩) ∧ e.2 = s.copyOf e'.2 →
      g.EntryOf (g.Keyed mode) stands' n e := by
    rintro n e e' ⟨p, hp, hk, hv⟩ ⟨hkey, hvalue⟩
    exact ⟨p, hp, hkey ▸ hk.text s, hvalue ▸ hcopy _ _ hv⟩
  unfold Filler.Holds at h
  split at h
  · obtain ⟨items, hc, hvs⟩ := h
    exact ⟨items, hc, List.forall₂_map_right_iff.mpr (hvs.imp hcopy)⟩
  · refine ⟨h.1, fun e he => ?_⟩
    obtain ⟨e', he', heq⟩ := Store.mem_plainEntries he
    exact hentry (h.2 e' he') heq
  · next ks =>
    have hset : Filler.Holds g (g.Keyed mode) stands n .set (.set ks) := h
    exact hset.mono (fun _ _ h => h) hstands
  · obtain ⟨items, hc, hes⟩ := h
    refine ⟨items, hc, fun e he => ?_⟩
    obtain ⟨e', he', heq⟩ := Store.mem_plainEntries he
    obtain ⟨m, hm, hm'⟩ := hes e' he'
    exact ⟨m, hm, hentry hm' heq⟩
  · obtain ⟨items, hc, hes⟩ := h
    refine ⟨items, hc, fun e he => ?_⟩
    obtain ⟨e', he', heq⟩ := Store.mem_plainEntries he
    obtain ⟨m, hm, hm'⟩ := hes e' he'
    exact ⟨m, hm, hentry hm' heq⟩
  · obtain ⟨items, hc, hvs⟩ := h
    refine ⟨items, hc, List.forall₂_map_right_iff.mpr (hvs.imp ?_)⟩
    rintro m _ ⟨k, w, rfl, he⟩
    exact ⟨k, w, rfl, he.mono (fun _ _ h => h) hstands⟩
  · exact h.elim

/-- Copying a value with texts for keys does not change what it stands for. -/
theorem Graph.Stands.plain {g : Graph} {mode : BuildMode} {s : Store} {n : Nat} {v : Value}
    (h : g.Stands mode s n v) : g.Stands mode s.withCopies n (s.copyOf v) := by
  refine ⟨fun n x => ∃ v, g.Stands mode s n v ∧ (x = v ∨ x = s.copyOf v), ⟨v, h, .inr rfl⟩, ?_⟩
  rintro n x ⟨v, hv, hx⟩
  have hstands : ∀ n v, g.Stands mode s n v →
      ∃ w, g.Stands mode s n w ∧ (v = w ∨ v = s.copyOf w) := fun _ v h => ⟨v, h, .inl rfl⟩
  have hcopy : ∀ n v, g.Stands mode s n v →
      ∃ w, g.Stands mode s n w ∧ (s.copyOf v = w ∨ s.copyOf v = s.copyOf w) :=
    fun _ v h => ⟨v, h, .inr rfl⟩
  rcases hv.represents with ⟨t, ht, hreads⟩ | ⟨rfl, hlooped⟩ | ⟨filler, c, rfl, hlt, htag, hholds⟩
  · rw [Store.copyOf_of_isAtom hreads.isAtom, or_self] at hx
    exact .inl ⟨t, ht, hx ▸ hreads⟩
  · rw [Store.copyOf_of_isAtom (v := .null) trivial, or_self] at hx
    exact .inr (.inl ⟨hx, hlooped⟩)
  · have hsize : s.withCopies.containers.size = s.containers.size + s.containers.size := by
      simp [Store.withCopies]
    -- the original is still there, and the copy of anything but a set lies behind it
    have hcases : x = .ref c ∨ x = .ref (s.containers.size + c) := by
      rcases hx with rfl | rfl
      · exact .inl rfl
      · unfold Store.copyOf
        dsimp only
        split
        · exact .inl rfl
        · exact .inr (if_pos hlt)
    rcases hcases with rfl | rfl
    · refine .inr (.inr ⟨filler, c, rfl, by omega, htag, ?_⟩)
      rw [Store.get_withCopies hlt]
      exact hholds.mono (fun _ _ h => h) hstands
    · refine .inr (.inr ⟨filler, _, rfl, by omega, htag, ?_⟩)
      rw [Store.get_withCopies_copy hlt]
      exact hholds.plain hstands hcopy

end Yaml

/-- Every value that is read from a text lies where a node of its graph lies and stands for it: a
scalar is what its tag asks for, unless it is a key and becomes a text. -/
theorem Yaml.ValueReader.exists_node {r : ValueReader} (hr : r.builder = .empty) {literalKeys : Bool}
    {source : List Char} {data : Datum} (h : (r.read literalKeys source).1 = .ok data) :
    ∃ a, (Graph.empty.read r.version source).result = .ok a ∧ ∀ root, a.root = some root →
      ∀ path x, data.plain.find? path = some x →
        ∃ n, a.graph.Leads (r.mode literalKeys source) root path n ∧
          a.graph.Shows (r.mode literalKeys source) x.store n x.value ∧
          ∀ t, (a.graph.get n).content = .scalar t →
            a.graph.Reads (r.mode literalKeys source) n t x.value := by
  obtain ⟨a, ha, hstands⟩ := read_stands hr h
  refine ⟨a, ha, fun root hroot path x hx => ?_⟩
  have hshows : a.graph.Shows (r.mode literalKeys source) data.plain.store root data.plain.value :=
    .inl (hstands root hroot).plain
  obtain ⟨n, hleads, hn⟩ := hshows.find? hx
  exact ⟨n, hleads, hn, fun t ht => hn.reads ht⟩

namespace Loader

/-- Every value of a loaded document lies where a node of the graph of its text lies and stands for
it: a scalar is what its tag asks for, unless it is a key of a mapping too and has become a text. -/
theorem exists_node_of_load {l : Loader} {text : String} {doc : LoadedDocument}
    (hl : l.reader.builder = .empty) (hload : (l.load text).1 = .ok doc) :
    ∃ a, (Yaml.Graph.empty.read l.reader.version text.toList).result = .ok a ∧
      ∀ root, a.root = some root → ∀ path x, doc.data.find? path = some x →
        ∃ n, a.graph.Leads (l.reader.mode true text.toList) root path n ∧
          a.graph.Shows (l.reader.mode true text.toList) x.store n x.value ∧
          ∀ t, (a.graph.get n).content = .scalar t →
            a.graph.typed? (l.reader.mode true text.toList).old n t = some x.value ∨
              a.graph.IsKey n ∧ x.value = .text t := by
  obtain ⟨_, data, -, -, hread, -, hdata⟩ := read_of_load hload
  obtain ⟨a, ha, hnode⟩ := Yaml.ValueReader.exists_node hl hread
  refine ⟨a, ha, fun root hroot path x hx => ?_⟩
  obtain ⟨n, hleads, hshows, hreads⟩ := hnode root hroot path x (hdata ▸ hx)
  exact ⟨n, hleads, hshows, fun t ht => (hreads t ht).imp id fun h => ⟨h.1.1, h.2⟩⟩

theorem exists_node_of_load_sharedItems :
    let text := "a: &x [0x10, true]\nb: {<<: {c: *x}}\n"
    let path : List Segment := [.key "b", .key "c", .index 0]
    ∃ doc x, ((start {}).load text).1 = .ok doc ∧ doc.data.find? path = some x ∧
      ∃ a, (Yaml.Graph.empty.read (start {}).reader.version text.toList).result = .ok a ∧
        ∀ root, a.root = some root →
          ∃ n, a.graph.Leads ((start {}).reader.mode true text.toList) root path n ∧
            a.graph.Shows ((start {}).reader.mode true text.toList) x.store n x.value ∧
            ∀ t, (a.graph.get n).content = .scalar t →
              a.graph.typed? ((start {}).reader.mode true text.toList).old n t = some x.value ∨
                a.graph.IsKey n ∧ x.value = .text t := by
  intro text path
  have hdoc : ((start {}).load text).1.toOption.any (fun doc =>
      (doc.data.find? path).isSome) = true := by decide +kernel
  obtain ⟨doc, hload, hpath⟩ := Except.exists_ok_of_any hdoc
  obtain ⟨x, hx⟩ := Option.isSome_iff_exists.mp hpath
  obtain ⟨a, ha, hnode⟩ := exists_node_of_load rfl hload
  exact ⟨doc, x, hload, hx, a, ha, fun root hroot => hnode root hroot path x hx⟩

/-- A scalar that is a key as well is not always what its tag asks for: its value is a text where
the same document, read without keeping keys, has a number. -/
theorem exists_text_of_load :
    let text := "a: &k 1\n*k : 2\n"
    ∃ doc x data y, ((start {}).load text).1 = .ok doc ∧ doc.data.find? [.key "a"] = some x ∧
      x.value = .text "1" ∧ (Yaml.ValueReader.start.read false text.toList).1 = .ok data ∧
      data.find? [.key "a"] = some y ∧ y.value = .int 1 := by
  intro text
  have hdoc : ((start {}).load text).1.toOption.any (fun doc =>
      (doc.data.find? [.key "a"]).any fun x => x.value.sameAtom (.text "1")) = true := by
    decide +kernel
  have hdata : (Yaml.ValueReader.start.read false text.toList).1.toOption.any (fun data =>
      (data.find? [.key "a"]).any fun y => y.value.sameAtom (.int 1)) = true := by
    decide +kernel
  obtain ⟨doc, hload, hdoc⟩ := Except.exists_ok_of_any hdoc
  obtain ⟨x, hx, hdoc⟩ := Option.any_eq_true _ _ |>.mp hdoc
  obtain ⟨data, hread, hdata⟩ := Except.exists_ok_of_any hdata
  obtain ⟨y, hy, hdata⟩ := Option.any_eq_true _ _ |>.mp hdata
  exact ⟨doc, x, data, y, hload, hx, Value.eq_of_sameAtom hdoc, hread, hy,
    Value.eq_of_sameAtom hdata⟩

end Loader

end YamlAudit
