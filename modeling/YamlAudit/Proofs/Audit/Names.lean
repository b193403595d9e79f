import YamlAudit.Audit.Structure
import YamlAudit.Proofs.Audit.Loading
import YamlAudit.Proofs.Audit.Typed
import YamlAudit.Proofs.Schema.Closed
import YamlAudit.Proofs.Yaml.Members

/-!
# Audit — the names of keys

A document keeps its keys as they are written, a structure reads them as values.  So a key that both
write alike is the same in both if it is read as a text, and only then.

* `Loader.mismatches_written_key`: a document with one pair, held against a structure for one member
  that forbids all others.  Where the key of the structure is read as a text, the value is held
  against what the structure has for it; where the key is of any other type, it is an extra key.
* `Loader.exists_extra_key`: the key `1`, written in both.

Which type a key without quotes has is up to its text alone, and a key in quotes is a text in both
readings, so either case is decided by how the key is written.  The statement is for one pair and
one member because both texts are followed through all stages, from their characters to the
mismatch.
-/

namespace YamlAudit

open Yaml Build

namespace Yaml

/-! ### Values and the nodes they stand for -/

namespace Graph

variable {g : Graph} {mode : BuildMode} {s : Store} {n : Nat} {pairs : List (Nat × Nat)}

/-- Without merge keys a mapping has no pairs but its own. -/
theorem Offers.mem (hc : (g.get n).content = .mapping pairs none)
    (hmerge : ∀ q ∈ pairs, (g.get q.1).tag ≠ ScalarType.merge.tag) {p : Nat × Nat}
    (h : g.Offers n p) : p ∈ pairs := by
  induction h with
  | own hp =>
      rw [hc] at hp
      exact hp
  | merged _ htag _ _ ih _ => exact absurd htag (hmerge _ (ih hc))

/-- An entry of a mapping without merge keys comes from one of the pairs. -/
theorem Stands.entry {c : Nat} {es : List (Value × Value)} (h : g.Stands mode s n (.ref c))
    (hc : (g.get n).content = .mapping pairs none)
    (hmerge : ∀ q ∈ pairs, (g.get q.1).tag ≠ ScalarType.merge.tag)
    (hget : s.get c = .mapping es) {e : Value × Value} (he : e ∈ es) :
    ∃ p ∈ pairs, g.Stands mode s p.2 e.2 := by
  obtain ⟨filler, hholds⟩ := h.holds
  rcases hholds.entry (.inl hget) he with ⟨p, hp, -, hv⟩ | ⟨items, hitems, -⟩
  · exact ⟨p, hp.mem hc hmerge, hv⟩
  · cases hc.symm.trans hitems

/-- The value of the one entry stands for the value of the one pair. -/
theorem Single.stands {type : ScalarType} {name : String} (S : g.Single n type name)
    (htype : type ≠ .merge) {c : Nat} {k x : Value} (h : g.Stands mode s n (.ref c))
    (hget : s.get c = .mapping [(k, x)]) : g.Stands mode s S.value x := by
  have hmerge : ∀ q ∈ [(S.key, S.value)], (g.get q.1).tag ≠ ScalarType.merge.tag := by
    intro q hq
    obtain rfl := List.mem_singleton.mp hq
    rw [S.isKey.tag]
    cases type <;> first | exact absurd rfl htype | decide
  obtain ⟨p, hp, hstands⟩ := h.entry S.pair hmerge hget (List.mem_singleton_self _)
  obtain rfl := List.mem_singleton.mp hp
  exact hstands

/-- The inner mapping stands for the inner node. -/
theorem Nested.stands {first second name : String} {type : ScalarType}
    (N : g.Nested n first second type name) {c d : Nat} {k y z : Value}
    (h : g.Stands mode s n (.ref c)) (hget : s.get c = .mapping [(k, .ref d), (y, z)]) :
    g.Stands mode s N.members (.ref d) := by
  have hmerge : ∀ q ∈ [(N.firstKey, N.members), (N.secondKey, N.flag)],
      (g.get q.1).tag ≠ ScalarType.merge.tag := by
    simp only [List.forall_mem_cons, N.isFirst.tag, N.isSecond.tag]
    exact ⟨by decide, by decide, List.forall_mem_nil _⟩
  obtain ⟨p, hp, hstands⟩ := h.entry N.pairs hmerge hget List.mem_cons_self
  rcases List.mem_cons.mp hp with rfl | hp
  · exact hstands
  · -- no container stands for a truth value
    obtain rfl := List.mem_singleton.mp hp
    obtain ⟨t, hflag, -⟩ := N.isFlag
    exact absurd (hstands.represents.reads hflag.content).isAtom id

end Graph

/-! ### Texts -/

namespace ValueReader

variable {r : ValueReader} {source : List Char} {data : Datum} {a : Assembly} {root : Nat}

/-- The value of a text is that of the document that its graph is. -/
theorem exists_document (hr : r.builder = .empty) {literalKeys : Bool}
    (h : (r.read literalKeys source).1 = .ok data)
    (ha : (Graph.empty.read r.version source).result = .ok a) (hroot : a.root = some root) :
    ∃ b, Build.document (r.mode literalKeys source) root
        { Builder.empty with graph := a.graph } = .ok data.value b ∧ data.store = b.store := by
  obtain ⟨a', ha', -, hbuilt⟩ := read_eq_ok hr h
  obtain rfl : a' = a := Except.ok.inj (ha'.symm.trans ha)
  exact hbuilt root hroot

variable {type : ScalarType} {name : String}

/-- The value of a text that is a mapping with one pair, where keys are kept as they are written. -/
theorem read_single (hr : r.builder = .empty) (h : (r.read true source).1 = .ok data)
    (ha : (Graph.empty.read r.version source).result = .ok a) (hroot : a.root = some root)
    (S : a.graph.Single root type name) (htype : type ≠ .merge) :
    ∃ c x, data.value = .ref c ∧ c < data.store.containers.size ∧
      data.store.get c = .mapping [(.text name, x)] ∧
      a.graph.Stands (r.mode true source) data.store S.value x := by
  obtain ⟨b, hbuild, hstore⟩ := exists_document hr h ha hroot
  obtain ⟨c, x, hvalue, hlt, hget⟩ := document_single S htype rfl _ _ hbuild
  have hstands := document_stands a.graph _ root _ _ hbuild
  rw [hvalue] at hstands
  rw [hstore]
  exact ⟨c, x, hvalue, hlt, hget, S.stands htype hstands hget⟩

/-- The value of a text that is a mapping of two pairs, the first with a mapping of one pair. -/
theorem read_nested {first second : String} (hr : r.builder = .empty)
    (h : (r.read false source).1 = .ok data)
    (ha : (Graph.empty.read r.version source).result = .ok a) (hroot : a.root = some root)
    (N : a.graph.Nested root first second type name) (htype : type ≠ .merge) :
    ∃ c d k x, data.value = .ref c ∧
      data.store.get c = .mapping [(.text first, .ref d), (.text second, .bool false)] ∧
      data.store.get d = .mapping [(k, x)] ∧
      a.graph.Reads (r.mode false source) N.inner.key name k ∧
      a.graph.Stands (r.mode false source) data.store N.inner.value x := by
  obtain ⟨b, hbuild, hstore⟩ := exists_document hr h ha hroot
  obtain ⟨c, d, k, x, hvalue, hgetc, hgetd, hreads⟩ := document_nested N htype rfl _ _ hbuild
  have hstands := document_stands a.graph _ root _ _ hbuild
  rw [hvalue] at hstands
  rw [hstore]
  exact ⟨c, d, k, x, hvalue, hgetc, hgetd, hreads,
    N.inner.stands htype (N.stands hstands hgetc) hgetd⟩

end ValueReader

end Yaml

/-! ### Documents and structures -/

/-- The copy of a mapping with one entry under a text. -/
theorem Datum.entries?_plain_singleton {d : Datum} {c : Nat} {name : String} {x : Value}
    (hvalue : d.value = .ref c) (hlt : c < d.store.containers.size)
    (hget : d.store.get c = .mapping [(.text name, x)]) :
    d.plain.entries? = some [(.text name, d.store.copyOf x)] := by
  have hcopy := Store.container?_copyOf hlt
  rw [hget, ← hvalue] at hcopy
  rw [entries?, show d.plain.container? = _ from hcopy]
  rfl

/-- A structure is the value of its text. -/
theorem read_of_readStructure {source : String} {expected : Datum}
    (h : readStructure source = .ok expected) :
    (ValueReader.start.read false source.toList).1 = .ok expected := by
  unfold readStructure at h
  split at h
  · cases h
  · next d hd =>
    split at h
    · exact Except.ok.inj h ▸ hd
    · cases h

namespace Loader

/-- A document with one pair, held against a structure that has a schema for one member and forbids
all others, where the keys are scalars with the same text.  If the key of the structure is read as a
text, the value of the pair is held against the schema and nothing else is asked, and the key is
never an extra one.  If the key has any other type, it is an extra one, and that is all. -/
theorem mismatches_written_key {l : Loader} {text source : String} {doc : LoadedDocument}
    {expected : Datum} (hl : l.reader.builder = .empty) (hload : (l.load text).1 = .ok doc)
    (hexpected : readStructure source = .ok expected) {a b : Assembly} {root top : Nat}
    (ha : (Graph.empty.read l.reader.version text.toList).result = .ok a)
    (hroot : a.root = some root)
    (hb : (Graph.empty.read .default source.toList).result = .ok b) (htop : b.root = some top)
    {written type : ScalarType} {name : String} (D : a.graph.Single root written name)
    (S : b.graph.Nested top "properties" "additionalProperties" type name)
    (hwritten : written ≠ .merge) (htype : type ≠ .merge) :
    ∃ x schema members key rule r, doc.data.entries? = some [(.text name, x)] ∧
      a.graph.Stands (l.reader.mode true text.toList) doc.data.store D.value x ∧
      expected.value = .ref schema ∧ expected.store.Closes schema members key rule ∧
      b.graph.Stands (ValueReader.start.mode false source.toList) expected.store S.inner.value
        rule ∧
      Schema.registered .latest expected = .ok r ∧
      (type = .text ∨ type = .value → key = .text name ∧
        r.Applies expected doc.data name (Registry.shifted Schema.offset rule) x) ∧
      (¬ (type = .text ∨ type = .value) → key.IsTyped ∧ r.CallsExtra expected doc.data name) := by
  obtain ⟨_, data, -, -, hread, -, hdata⟩ := read_of_load hload
  obtain ⟨c, x, hvalue, hlt, hget, hstands⟩ :=
    ValueReader.read_single hl hread ha hroot D hwritten
  obtain ⟨schema, members, key, rule, hschema, hwords, hmembers, hkey, hrule⟩ :=
    ValueReader.read_nested rfl (read_of_readStructure hexpected) hb htop S htype
  obtain ⟨store, value⟩ := expected
  subst hschema
  have hcloses : store.Closes schema members key rule := ⟨hwords, hmembers⟩
  have hentries : doc.data.entries? = some [(.text name, data.store.copyOf x)] :=
    hdata ▸ Datum.entries?_plain_singleton hvalue hlt hget
  -- the structure is a schema for one member, and all hangs on whether its key is the text of the
  -- document's
  obtain ⟨r, hr, hsame, hother⟩ := hcloses.held hentries
  refine ⟨data.store.copyOf x, schema, members, key, rule, r, hentries, ?_, rfl, hcloses, hrule, hr,
    fun htext => ?_, fun htext => ?_⟩
  · rw [hdata]
    exact hstands.plain
  · have hkey := S.inner.isKey.reads_text htext hkey
    exact ⟨hkey, hsame hkey⟩
  · have htyped := S.inner.isKey.reads_typed (mt .inl htext) (mt .inr htext) rfl hkey
    exact ⟨htyped, hother fun heq => by rwa [heq] at htyped⟩

theorem mismatches_written_key_plainText :
    let text := "name: 1\n"
    let source := "properties:\n  name: {type: string}\nadditionalProperties: false\n"
    ∃ doc expected a b, ((start {}).load text).1 = .ok doc ∧ readStructure source = .ok expected ∧
      (Graph.empty.read (start {}).reader.version text.toList).result = .ok a ∧
      (Graph.empty.read .default source.toList).result = .ok b ∧
      ∃ (D : a.graph.Single 0 .text "name")
        (S : b.graph.Nested 0 "properties" "additionalProperties" .text "name"),
      ∃ x schema members key rule r, doc.data.entries? = some [(.text "name", x)] ∧
        a.graph.Stands ((start {}).reader.mode true text.toList) doc.data.store D.value x ∧
        expected.value = .ref schema ∧ expected.store.Closes schema members key rule ∧
        b.graph.Stands (ValueReader.start.mode false source.toList) expected.store S.inner.value
          rule ∧
        Schema.registered .latest expected = .ok r ∧ key = .text "name" ∧
        r.Applies expected doc.data "name" (Registry.shifted Schema.offset rule) x := by
  intro text source
  have hload : ((start {}).load text).1.toOption.any (fun _ => true) = true := by decide +kernel
  have hexpected : (readStructure source).toOption.any (fun _ => true) = true := by decide +kernel
  have ha : (Graph.empty.read (start {}).reader.version text.toList).result.toOption.any (fun a =>
      decide ((a.root = some 0 ∧ (a.graph.get 0).tag = mappingTag) ∧
        (a.graph.get 0).content = .mapping [(1, 2)] none ∧ a.graph.Types 1 .text "name")) = true := by
    decide +kernel
  have hb : (Graph.empty.read .default source.toList).result.toOption.any (fun b =>
      decide ((b.root = some 0 ∧ (b.graph.get 0).tag = mappingTag ∧
          (b.graph.get 0).content = .mapping [(1, 2), (7, 8)] none) ∧
        (b.graph.Types 1 .text "properties" ∧ b.graph.Types 7 .text "additionalProperties" ∧
          b.graph.Types 8 .bool "false") ∧
        (b.graph.get 2).tag = mappingTag ∧ (b.graph.get 2).content = .mapping [(3, 4)] none ∧
          b.graph.Types 3 .text "name")) = true := by
    decide +kernel
  obtain ⟨doc, hload, -⟩ := Except.exists_ok_of_any hload
  obtain ⟨expected, hexpected, -⟩ := Except.exists_ok_of_any hexpected
  obtain ⟨a, ha, hD⟩ := Except.exists_ok_of_any ha
  obtain ⟨b, hb, hS⟩ := Except.exists_ok_of_any hb
  obtain ⟨⟨hroot, htag⟩, hpair, hkey⟩ := of_decide_eq_true hD
  obtain ⟨⟨htop, htag', hpairs⟩, ⟨hfirst, hsecond, hflag⟩, htag'', hpair', hkey'⟩ :=
    of_decide_eq_true hS
  let D : a.graph.Single 0 .text "name" := ⟨1, 2, htag, hpair, hkey⟩
  let S : b.graph.Nested 0 "properties" "additionalProperties" .text "name" :=
    ⟨1, 2, 7, 8, htag', hpairs, hfirst, hsecond, ⟨3, 4, htag'', hpair', hkey'⟩,
      ⟨"false", hflag, rfl⟩, show [1, 7, 8, 3].Nodup by decide⟩
  obtain ⟨x, schema, members, key, rule, r, hentries, hx, hvalue, hcloses, hrule, hr, htext, -⟩ :=
    mismatches_written_key rfl hload hexpected ha hroot hb htop D S nofun nofun
  exact ⟨doc, expected, a, b, hload, hexpected, ha, hb, D, S, x, schema, members, key, rule, r,
    hentries, hx, hvalue, hcloses, hrule, hr, htext (.inl rfl)⟩

/-- Whether a document has one pair, with a given key. -/
def hasOneKey (name : String) (d : Datum) : Bool :=
  match d.entries? with
  | some [(.text key, _)] => key == name
  | _ => false

theorem entries?_of_hasOneKey {name : String} {d : Datum} (h : hasOneKey name d = true) :
    ∃ x, d.entries? = some [(.text name, x)] := by
  unfold hasOneKey at h
  split at h
  · next key x hentries => exact ⟨x, beq_iff_eq.mp h ▸ hentries⟩
  · cases h

example : hasOneKey "a" (.ofPlain (.object [("a", .null)])) = true := by decide +kernel

/-- Whether a structure is for one member, under an integer, and forbids all others. -/
def closesOver (n : Int) (d : Datum) : Bool :=
  match d.value, d.store.get 0, d.store.get 1 with
  | .ref schema, .mapping [(.text word, .ref members), (.text word', .bool flag)],
    .mapping [(.int key, _)] =>
    decide (schema = 0 ∧ word = "properties" ∧ members = 1 ∧ word' = "additionalProperties" ∧
      flag = false ∧ key = n)
  | _, _, _ => false

theorem closes_of_closesOver {n : Int} {s : Store} {v : Value} (h : closesOver n ⟨s, v⟩ = true) :
    v = .ref 0 ∧ ∃ rule, s.Closes 0 1 (.int n) rule := by
  unfold closesOver at h
  split at h
  · next rule hvalue hwords hmembers =>
    obtain ⟨rfl, rfl, rfl, rfl, rfl, rfl⟩ := of_decide_eq_true h
    exact ⟨hvalue, rule, hwords, hmembers⟩
  · cases h

/-- A key that is written alike in both is an extra one, if the structure reads it as a number. -/
theorem exists_extra_key :
    ∃ doc expected r, ((start {}).load "1: x\n").1 = .ok doc ∧
      readStructure "properties:\n  1: {type: string}\nadditionalProperties: false\n" =
        .ok expected ∧
      Schema.registered .latest expected = .ok r ∧ r.CallsExtra expected doc.data "1" := by
  have hload : ((start {}).load "1: x\n").1.toOption.any (fun doc => hasOneKey "1" doc.data) = true :=
    by decide +kernel
  have hread : (readStructure
      "properties:\n  1: {type: string}\nadditionalProperties: false\n").toOption.any
      (closesOver 1) = true := by decide +kernel
  obtain ⟨doc, hload, hdoc⟩ := Except.exists_ok_of_any hload
  obtain ⟨⟨store, value⟩, hread, hcloses⟩ := Except.exists_ok_of_any hread
  obtain ⟨x, hentries⟩ := entries?_of_hasOneKey hdoc
  obtain ⟨rfl, rule, hcloses⟩ := closes_of_closesOver hcloses
  obtain ⟨r, hr, -, hother⟩ := hcloses.held hentries
  exact ⟨doc, _, r, hload, hread, hr, hother nofun⟩

end Loader

end YamlAudit
