import YamlAudit.Proofs.Audit.Shape
import YamlAudit.Proofs.Yaml.Distinct

/-!
# Audit — what becomes of the entries of mappings

No key comes twice in a mapping that has been built, but keys are compared as values there and become
texts only afterwards.  Different keys may then come to the same text, and of their entries one is
left (`Loader.exists_lost_of_load`): a scalar that is shared with a value keeps its type as a key, as
does a key of an ordered map, and the text of a tuple may be written as a text of its own.

* `Loader.length_entries_of_load`: a mapping of a loaded document has an entry for each text that its
  keys come to, so it has lost none exactly if these are pairwise different.

Keys of a document that are scalars are kept as they are written, unless they are shared with a
value, and two of them with one text are one key, which is refused when the mapping is built.  So
entries get lost by keys of other kinds only, and a text is given for each of these kinds.  Nothing
is reported of an entry that is lost.
-/

namespace YamlAudit

/-- Different texts are different names. -/
theorem DistinctKeys.pairwise_nameOf {d : Datum} {es : List (Value × Value)} (h : DistinctKeys es)
    (htexts : ∀ e ∈ es, ∃ t, e.1 = .text t) :
    es.Pairwise fun a b => d.nameOf a.1 ≠ d.nameOf b.1 := by
  refine h.imp_of_mem fun {a b} ha hb hne heq => ?_
  obtain ⟨t, ht⟩ := htexts a ha
  obtain ⟨u, hu⟩ := htexts b hb
  rw [ht, hu] at hne heq
  exact absurd heq (beq_eq_false_iff_ne.mp hne)

/-- A container with entries is a mapping that is there. -/
theorem Datum.get_of_entries? {d : Datum} {n : Nat} {es : List (Value × Value)}
    (h : (d.sibling (.ref n)).entries? = some es) :
    n < d.store.containers.size ∧ (d.store.get n = .mapping es ∨ d.store.get n = .ordered es) := by
  have hget : d.store.get n = .mapping es ∨ d.store.get n = .ordered es := by
    obtain ⟨m, hm, hget⟩ := entries?_eq_some.mp h
    exact Value.ref.inj hm ▸ hget
  refine ⟨Nat.lt_of_not_le fun hle => ?_, hget⟩
  rw [Store.get_of_size_le hle] at hget
  rcases hget with hget | hget <;> cases hget

namespace Loader

/-- What becomes of the entries of the mappings that were built for a loaded document: of those whose
keys come to the same text one is left, in the first place and with the last value.  None is lost
exactly if the keys come to pairwise different texts, and in particular if they are texts. -/
theorem length_entries_of_load {l : Loader} {text : String} {doc : LoadedDocument} (hl : l.Ready)
    (hload : (l.load text).1 = .ok doc) :
    ∃ data, (l.reader.read true text.toList).1 = .ok data ∧ doc.data = data.plain ∧
      ∀ n es, (data.sibling (.ref n)).entries? = some es → DistinctKeys es ∧
        ∃ es', (doc.data.sibling (data.store.copyOf (.ref n))).entries? = some es' ∧
          es' = renamed data.nameOf data.store.copyOf es ∧
          es'.length = (namesOf data.nameOf es).length ∧ es'.length ≤ es.length ∧
          (es'.length = es.length ↔ es.Pairwise fun a b => data.nameOf a.1 ≠ data.nameOf b.1) ∧
          ((∀ e ∈ es, ∃ t, e.1 = .text t) → es'.length = es.length) := by
  obtain ⟨_, data, -, -, hread, -, hdata⟩ := read_of_load hload
  have hdistinct := Yaml.ValueReader.read_distinct hl.builder hread
  refine ⟨data, hread, hdata, fun n es hes => ?_⟩
  obtain ⟨hn, hget⟩ := Datum.get_of_entries? hes
  have hkeys : DistinctKeys es := by
    have hn := hdistinct n
    rcases hget with hget | hget <;> rw [hget] at hn <;> exact hn
  have hcopy : (doc.data.sibling (data.store.copyOf (.ref n))).entries? =
      some (renamed data.nameOf data.store.copyOf es) := by
    have hcontainer := Store.container?_copyOf hn
    rw [Datum.entries?, hdata, Datum.sibling, Datum.plain, hcontainer, ← Datum.plainEntries_eq]
    rcases hget with hget | hget <;> rw [hget] <;> rfl
  exact ⟨hkeys, _, hcopy, rfl, length_renamed, length_renamed_le, length_renamed_eq_iff,
    fun htexts => length_renamed_eq_iff.mpr (hkeys.pairwise_nameOf htexts)⟩

theorem length_entries_of_load_tupleKey :
    let text := "? [a]\n: 1\n? b\n: 2\n"
    ∃ doc data es es', ((start {}).load text).1 = .ok doc ∧
      ((start {}).reader.read true text.toList).1 = .ok data ∧ doc.data = data.plain ∧
      data.entries? = some es ∧ es.length = 2 ∧ doc.data.entries? = some es' ∧
      (es'.length = es.length ↔ es.Pairwise fun a b => data.nameOf a.1 ≠ data.nameOf b.1) := by
  intro text
  have hboth : (((start {}).load text).1.toOption.any (fun _ => true) &&
      ((start {}).reader.read true text.toList).1.toOption.any fun data =>
        data.entries?.any fun es => es.length == 2) = true := by decide +kernel
  obtain ⟨hdoc, hbuilt⟩ := Bool.and_eq_true_iff.mp hboth
  obtain ⟨doc, hload, -⟩ := Except.exists_ok_of_any hdoc
  obtain ⟨data, hread, hdata, hentries⟩ := length_entries_of_load (ready_start {}) hload
  obtain ⟨data', hread', hbuilt⟩ := Except.exists_ok_of_any hbuilt
  obtain rfl : data = data' := Except.ok.inj (hread.symm.trans hread')
  obtain ⟨es, hes, htwo⟩ := Option.any_eq_true _ _ |>.mp hbuilt
  cases hroot : data.value with
  | ref n =>
      have hsame : data.sibling (.ref n) = data := by rw [← hroot]; rfl
      have hcopy : doc.data.sibling (data.store.copyOf (.ref n)) = doc.data := by
        rw [hdata, ← hroot]
        rfl
      obtain ⟨-, es', hes', -, -, -, hiff, -⟩ := hentries n es (hsame.symm ▸ hes)
      rw [hcopy] at hes'
      exact ⟨doc, data, es, es', hload, hread, hdata, hes, beq_iff_eq.mp htwo, hes', hiff⟩
  | _ =>
      rw [Datum.entries?, Datum.container?, hroot] at hes
      cases hes

/-- Documents in which an entry is lost: the mapping there has fewer entries than were built. -/
theorem exists_lost_of_load :
    List.Forall (fun input : String × List Segment =>
      ∃ doc data, ((start {}).load input.1).1 = .ok doc ∧
        ((start {}).reader.read true input.1.toList).1 = .ok data ∧
        ∃ built loaded es es', data.find? input.2 = some built ∧
          doc.data.find? input.2 = some loaded ∧ built.entries? = some es ∧
          loaded.entries? = some es' ∧ es.length = 2 ∧ es'.length = 1)
      [("- &k 1\n- *k : a\n  \"1\": b\n", [.index 1]),
        ("!!omap [1: a, \"1\": b]\n", []),
        ("? [a]\n: 1\n\"('a',)\": 2\n", [])] := by
  rw [List.forall_iff_forall_mem]
  intro input hinput
  have hboth : (((start {}).load input.1).1.toOption.any (fun doc =>
        (doc.data.find? input.2).any fun loaded => loaded.entries?.any fun es => es.length == 1) &&
      ((start {}).reader.read true input.1.toList).1.toOption.any fun data =>
        (data.find? input.2).any fun built => built.entries?.any fun es => es.length == 2) = true := by
    revert input
    decide +kernel
  obtain ⟨hdoc, hdata⟩ := Bool.and_eq_true_iff.mp hboth
  obtain ⟨doc, hload, hdoc⟩ := Except.exists_ok_of_any hdoc
  obtain ⟨data, hread, hdata⟩ := Except.exists_ok_of_any hdata
  obtain ⟨loaded, hloaded, hdoc⟩ := Option.any_eq_true _ _ |>.mp hdoc
  obtain ⟨es', hes', hone⟩ := Option.any_eq_true _ _ |>.mp hdoc
  obtain ⟨built, hbuilt, hdata⟩ := Option.any_eq_true _ _ |>.mp hdata
  obtain ⟨es, hes, htwo⟩ := Option.any_eq_true _ _ |>.mp hdata
  exact ⟨doc, data, hload, hread, built, loaded, es, es', hbuilt, hloaded, hes, hes',
    beq_iff_eq.mp htwo, beq_iff_eq.mp hone⟩

end Loader

end YamlAudit
