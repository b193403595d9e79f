import YamlAudit.Proofs.Schema.Unnamed

/-!
# Schema — schemas for one member and no other

A schema may speak of one member and forbid all others (`Store.Closes`).  What it says of a mapping
with one member depends on whether the two keys are the same (`Store.Closes.held`).

* `Registered.Applies`: the schema for the key is applied to the member, and nothing else is asked; no
  mismatch calls the member an extra one.
* `Registered.CallsExtra`: the member is an extra one, and this is the only mismatch.

The key that the schema speaks of may be any value and not only a text, because a structure keeps
the types of its keys.
-/

namespace YamlAudit

open Schema

/-- A schema with its members in another mapping: it has the schema `rule` for the member under `key`
and forbids all others. -/
structure Store.Closes (s : Store) (schema members : Nat) (key rule : Value) : Prop where
  schema : s.get schema =
    .mapping [(.text "properties", .ref members), (.text "additionalProperties", .bool false)]
  members : s.get members = .mapping [(key, rule)]

/-! ### Registration -/

theorem Value.eq_text_of_text_sameKey {k : Value} {t : String}
    (h : (Value.text t).sameKey k = true) : k = .text t := by
  cases k with
  | text s => rw [beq_iff_eq.mp h]
  | _ => cases h

namespace Store.Closes

variable {s : Store} {schema members : Nat} {key rule : Value}

theorem entries? (h : s.Closes schema members key rule) :
    Datum.entries? ⟨s, .ref schema⟩ = some
      [(.text "properties", .ref members), (.text "additionalProperties", .bool false)] :=
  Datum.entries?_of_mapping h.schema

theorem memberEntries? (h : s.Closes schema members key rule) :
    Datum.entries? ⟨s, .ref members⟩ = some [(key, rule)] :=
  Datum.entries?_of_mapping h.members

theorem member? (h : s.Closes schema members key rule) (word : String) :
    Datum.member? ⟨s, .ref schema⟩ word =
      if "properties" = word then some ⟨s, .ref members⟩
      else if "additionalProperties" = word then some ⟨s, .bool false⟩ else none := by
  rw [Datum.member?, h.entries?, Option.bind_some, lookupKey_text_cons, lookupKey_text_cons]
  split
  · rfl
  · split <;> rfl

/-- The structure has no name and asks for no other draft. -/
theorem registered (h : s.Closes schema members key rule) :
    draftOf ⟨s, .ref schema⟩ = .ok .latest ∧
    ∃ registry : Registry, Schema.registered .latest ⟨s, .ref schema⟩ =
        .ok (.unnamed registry (offset + schema)) ∧
      registry.store.Closes (offset + schema) (offset + members) (Registry.shifted offset key)
        (Registry.shifted offset rule) := by
  have hunnamed : Datum.Unnamed ⟨s, .ref schema⟩ :=
    ⟨_, h.entries?, by simp⟩
  obtain ⟨hdraft, registry, hregistered, hget⟩ := hunnamed.registered
  exact ⟨hdraft, registry, hregistered, by rw [hget, h.schema]; rfl, by rw [hget, h.members]; rfl⟩

end Store.Closes

/-! ### Verdicts -/

namespace Schema.Registered

/-- What a schema within one that is registered says of a member under its key. -/
def memberVerdict (r : Registered) (data : Datum) (name : String) (rule x : Value) : Verdict :=
  (r.site data "properties" .null).descend (r.applier data) rule x (some (.key name))

variable {registry : Registry} {schema members : Nat} {key rule : Value} {data : Datum}

/-- Both keywords are held against the value, one after the other. -/
theorem verdict_closed (h : registry.store.Closes schema members key rule) :
    let r := Registered.unnamed registry schema
    r.verdict data =
      (Rules.properties (r.applier data) (r.site data "properties" (.ref members))).andThen fun _ =>
        Rules.additionalProperties (r.applier data)
          (r.site data "additionalProperties" (.bool false)) := by
  intro r
  have hverdict : r.verdict data =
      applySchema registry data.store false (Schema.depth - 1 + 1) ⟨.latest, "", [], false⟩ .latest
        (.ref schema) data.value := rfl
  rw [hverdict, applySchema_words h.schema]
  show ((Rules.properties (r.applier data) (r.site data "properties" (.ref members))).andThen
    fun _ => (Rules.additionalProperties (r.applier data)
      (r.site data "additionalProperties" (.bool false))).andThen fun _ => .clean) = _
  simp only [Verdict.andThen_clean]

end Schema.Registered

/-! ### Where violations lie -/

/-- A schema that is applied to a part of a value finds its violations there; one that allows nothing
does not say where. -/
theorem Site.path_descend {a : Applier} {s : Site} {schema subject : Value} {step : Segment}
    {v : Violation} (hv : v ∈ (s.descend a schema subject (some step)).violations) :
    v.keyword = none ∨ ∃ rest, v.path = step :: rest := by
  unfold descend at hv
  split at hv
  · cases hv
  · unfold forbidden Verdict.onOk at hv
    split at hv
    · obtain rfl := List.mem_singleton.mp hv
      exact .inl rfl
    · cases hv
  · unfold Verdict.onOk at hv
    split at hv
    · obtain ⟨w, -, rfl⟩ := List.mem_map.mp hv
      exact .inr ⟨w.path, rfl⟩
    · cases hv

/-- A mismatch at a key is one for a key that is forbidden. -/
theorem Violation.path_of_key {v : Violation} {schemas data : Store} {here : List Mismatch}
    {m : Mismatch} (hhere : v.reports schemas data = .ok here) (hm : m ∈ here)
    (hkey : m.aspect = .key) :
    v.kind data = .extraKeys ∧ ∃ key, m.path = v.path ++ [step data key] := by
  unfold reports at hhere
  split at hhere
  · obtain ⟨names, -, hhere⟩ := Except.bind_eq_ok.mp hhere
    obtain ⟨missing, -, hhere⟩ := Except.bind_eq_ok.mp hhere
    obtain ⟨name, -, hname⟩ := Except.exists_of_mem_mapM hhere hm
    obtain ⟨t, -, hname⟩ := Except.bind_eq_ok.mp hname
    cases hname
    cases hkey
  · next hk =>
    obtain ⟨keys, -, hhere⟩ := Except.bind_eq_ok.mp hhere
    cases hhere
    obtain ⟨key, -, rfl⟩ := List.mem_map.mp hm
    exact ⟨hk, key, rfl⟩
  · cases hhere
    obtain rfl := List.mem_singleton.mp hm
    cases hkey

namespace Schema.Registered

variable {registry : Registry} {schema members : Nat} {key rule : Value} {data : Datum}

/-! ### The member of a mapping -/

section Member

variable {name : String} {x : Value}

/-- The schema speaks of a key by name exactly if it is its own key. -/
theorem isNamed_closed (h : registry.store.Closes schema members key rule) {s : Site}
    (hregistry : s.registry = registry) (hschema : s.schema = .ref schema) :
    Rules.isNamed s (.text name) = .ok (key.sameKey (.text name)) := by
  have hbeside : s.beside? "properties" = some ⟨registry.store, .ref members⟩ := by
    rw [Site.beside?, Site.ruleDatum, hregistry, hschema]
    exact h.member? _
  have hparts := Datum.parts_of_entries? h.memberEntries?
  rw [Rules.isNamed, hbeside]
  simp [Datum.finds, hparts]

/-- A member is additional exactly if its key is another. -/
theorem additionalMembers_closed (h : registry.store.Closes schema members key rule) {s : Site}
    (hregistry : s.registry = registry) (hschema : s.schema = .ref schema) :
    Rules.additionalMembers s [(.text name, x)] =
      .ok (if key.sameKey (.text name) then [] else [(.text name, x)]) := by
  have hjoined : Rules.joinedPatterns s = .ok "" := by
    have hbeside : s.beside? "patternProperties" = none := by
      rw [Site.beside?, Site.ruleDatum, hregistry, hschema]
      exact h.member? _
    rw [Rules.joinedPatterns, hbeside]
    rfl
  rw [Rules.additionalMembers, hjoined]
  refine (Except.filterM_of_ok (q := fun _ => !key.sameKey (.text name)) fun e he => ?_).trans ?_
  · obtain rfl := List.mem_singleton.mp he
    rw [isNamed_closed h hregistry hschema]
    cases key.sameKey (.text name) <;> rfl
  · cases key.sameKey (.text name) <;> rfl

/-- A member whose key the schema names has to be as the schema for the key says. -/
theorem verdict_named (h : registry.store.Closes schema members (.text name) rule)
    (hdata : data.entries? = some [(.text name, x)]) :
    let r := Registered.unnamed registry schema
    r.verdict data = r.memberVerdict data name rule x := by
  intro r
  have hsame : (Value.text name).sameKey (.text name) = true := beq_self_eq_true name
  have hproperties : Rules.properties (r.applier data) (r.site data "properties" (.ref members)) =
      r.memberVerdict data name rule x := by
    have hentries : (r.site data "properties" (.ref members)).entries? = some [(.text name, x)] :=
      hdata
    have hasked : (r.site data "properties" (.ref members)).asked.entries =
        .ok [(.text name, rule)] := Datum.entries_eq_ok.mpr h.memberEntries?
    rw [Rules.properties, hentries]
    simp only [hasked, Verdict.onOk, Verdict.each, lookupKey, hsame, if_true]
    exact Verdict.andThen_clean _
  have hadditional : Rules.additionalProperties (r.applier data)
      (r.site data "additionalProperties" (.bool false)) = .clean := by
    have hentries : (r.site data "additionalProperties" (.bool false)).entries? =
        some [(.text name, x)] := hdata
    rw [Rules.additionalProperties, hentries]
    dsimp only
    rw [additionalMembers_closed h rfl rfl, hsame]
    rfl
  rw [verdict_closed h, hproperties, hadditional]
  exact Verdict.andThen_clean _

/-- A member whose key the schema does not name is forbidden, and nothing else is asked. -/
theorem verdict_unnamed (h : registry.store.Closes schema members key rule)
    (hkey : key ≠ .text name) (hdata : data.entries? = some [(.text name, x)]) :
    ∃ message, (Registered.unnamed registry schema).verdict data = ⟨[⟨message, [],
      some "additionalProperties", .bool false, data.value, .ref schema⟩], none⟩ := by
  let r := Registered.unnamed registry schema
  have hother : key.sameKey (.text name) = false :=
    eq_false_of_ne_true fun hsame => hkey (Value.eq_text_of_sameKey hsame)
  have hother' : (Value.text name).sameKey key = false :=
    eq_false_of_ne_true fun hsame => hkey (Value.eq_text_of_text_sameKey hsame)
  -- the member has another key than the schema speaks of, so nothing is asked of its value
  have hproperties : Rules.properties (r.applier data) (r.site data "properties" (.ref members)) =
      .clean := by
    have hentries : (r.site data "properties" (.ref members)).entries? = some [(.text name, x)] :=
      hdata
    have hasked : (r.site data "properties" (.ref members)).asked.entries = .ok [(key, rule)] :=
      Datum.entries_eq_ok.mpr h.memberEntries?
    rw [Rules.properties, hentries]
    simp only [hasked, Verdict.onOk, Verdict.each, lookupKey, hother', Bool.false_eq_true, if_false]
    exact Verdict.andThen_clean _
  let s := r.site data "additionalProperties" (.bool false)
  obtain ⟨t, ht⟩ : ∃ t, Rules.extras s [.text name] = .ok t := by
    have hsaid : saidAll data.store [.text name] = .ok (listed [quoted name]) := rfl
    exact ⟨_, Except.bind_eq_ok.mpr ⟨_, hsaid, rfl⟩⟩
  -- and so it is additional, and forbidden
  have hadditional : Rules.additionalProperties (r.applier data) s =
      ⟨[⟨"Additional properties are not allowed (" ++ t ++ " unexpected)", [],
        some "additionalProperties", .bool false, data.value, .ref schema⟩], none⟩ := by
    have hentries : s.entries? = some [(.text name, x)] := hdata
    have hbeside : s.beside? "patternProperties" = none := h.member? _
    rw [Rules.additionalProperties, hentries]
    dsimp only
    rw [additionalMembers_closed h rfl rfl, hother, if_neg Bool.false_ne_true]
    simp only [Verdict.onOk, hbeside, List.map_cons, List.map_nil, List.mergeSort_singleton, ht]
    rfl
  refine ⟨"Additional properties are not allowed (" ++ t ++ " unexpected)", ?_⟩
  rw [verdict_closed h, hproperties]
  exact hadditional

/-- The member whose key the schema does not name is an extra one, and this is all. -/
theorem mismatches_unnamed (h : registry.store.Closes schema members key rule)
    (hkey : key ≠ .text name) (hdata : data.entries? = some [(.text name, x)]) :
    ((Registered.unnamed registry schema).verdict data).mismatches registry.store data.store =
      .ok [⟨"extra key", [.key name], .key⟩] := by
  obtain ⟨message, hverdict⟩ := verdict_unnamed h hkey hdata
  let v : Violation :=
    ⟨message, [], some "additionalProperties", .bool false, data.value, .ref schema⟩
  have hentries : data.store.entries? data.value = some [(.text name, x)] := hdata
  have hother : key.sameKey (.text name) = false :=
    eq_false_of_ne_true fun hsame => hkey (Value.eq_text_of_sameKey hsame)
  have hkind : v.kind data.store = .extraKeys :=
    Violation.kind_eq_extraKeys_iff.mpr ⟨rfl, by
      rw [show data.store.entries? v.subject = _ from hentries]
      exact Option.some_ne_none _⟩
  have hunknown : v.unknownKeys registry.store data.store = .ok [.text name] := by
    rw [Violation.unknownKeys_eq_additionalKeys, Violation.additionalKeys, Violation.entries]
    · rw [show data.store.entries? v.subject = _ from hentries, Option.getD_some,
        additionalMembers_closed h rfl rfl, hother]
      rfl
    · intro patterns hpatterns
      cases (h.member? "patternProperties").symm.trans hpatterns
  rw [hverdict, Verdict.mismatches, mismatchesFrom_cons (v := v) (by rw [hkind]; decide),
    Violation.reports_of_extraKeys hkind hunknown]
  rfl

/-- No mismatch calls a member an extra one whose key the schema names. -/
theorem not_extra_named (h : registry.store.Closes schema members (.text name) rule)
    (hdata : data.entries? = some [(.text name, x)]) {found : List Mismatch}
    (hfound : ((Registered.unnamed registry schema).verdict data).mismatches registry.store
      data.store = .ok found) : ⟨"extra key", [.key name], .key⟩ ∉ found := by
  intro hm
  obtain ⟨found', hfound', hrest⟩ := Except.bind_eq_ok.mp hfound
  obtain rfl : found' = found := by
    split at hrest
    · cases hrest
    · exact Except.ok.inj hrest
  obtain ⟨v, hv, here, hhere, hm⟩ := exists_reports_of_mem hfound' hm
  obtain ⟨hkind, key, hpath⟩ := Violation.path_of_key hhere hm rfl
  rw [verdict_named h hdata] at hv
  obtain hnone | ⟨rest, hrest⟩ := Site.path_descend hv
  · cases hnone.symm.trans (Violation.kind_eq_extraKeys_iff.mp hkind).1
  · rw [hrest] at hpath
    simp at hpath

end Member

/-- The schema for a member is applied to it, nothing else is asked, and the member is never called an
extra one. -/
structure Applies (r : Registered) (expected data : Datum) (name : String) (rule x : Value) : Prop where
  verdict : r.verdict data = r.memberVerdict data name rule x
  notExtra : ∀ found, mismatches expected data = .ok found →
    ⟨"extra key", [.key name], .key⟩ ∉ found

/-- The member is called an extra one, and nothing else is found. -/
structure CallsExtra (r : Registered) (expected data : Datum) (name : String) : Prop where
  found : (r.verdict data).mismatches r.registry.store data.store =
    .ok [⟨"extra key", [.key name], .key⟩]
  only : firstFlaw .latest expected = .ok none →
    mismatches expected data = .ok [⟨"extra key", [.key name], .key⟩]

end Schema.Registered

/-- The mismatches of a structure are those of what is registered for it, unless it is no schema. -/
theorem mismatches_eq_ok {expected data : Datum} {draft : Draft} {r : Registered}
    (hdraft : draftOf expected = .ok draft) (hr : Schema.registered draft expected = .ok r)
    {found : List Mismatch} (h : mismatches expected data = .ok found) :
    (∃ flaw, found = [.ofDocument flaw]) ∨
      (r.verdict data).mismatches r.registry.store data.store = .ok found := by
  obtain ⟨draft', hdraft', h⟩ := Except.bind_eq_ok.mp h
  obtain rfl := Except.ok.inj (hdraft.symm.trans hdraft')
  obtain ⟨flaw?, -, h⟩ := Except.bind_eq_ok.mp h
  split at h
  · cases h
    exact .inl ⟨_, rfl⟩
  · obtain ⟨r', hr', h⟩ := Except.bind_eq_ok.mp h
    obtain rfl := Except.ok.inj (hr.symm.trans hr')
    exact .inr h

/-- A structure for one member that forbids all others, held against a mapping with one member under a
text: all depends on whether the key of the structure is this text. -/
theorem Store.Closes.held {s : Store} {schema members : Nat} {key rule : Value}
    (h : s.Closes schema members key rule) {data : Datum} {name : String} {x : Value}
    (hdata : data.entries? = some [(.text name, x)]) :
    ∃ r, Schema.registered .latest ⟨s, .ref schema⟩ = .ok r ∧
      (key = .text name → r.Applies ⟨s, .ref schema⟩ data name (Registry.shifted offset rule) x) ∧
      (key ≠ .text name → r.CallsExtra ⟨s, .ref schema⟩ data name) := by
  obtain ⟨hdraft, registry, hregistered, hcloses⟩ := h.registered
  refine ⟨_, hregistered, ?_, fun hkey => ?_⟩
  · rintro rfl
    refine ⟨Registered.verdict_named hcloses hdata, fun found hfound => ?_⟩
    obtain ⟨flaw, rfl⟩ | hfound := mismatches_eq_ok hdraft hregistered hfound
    · intro hmem
      cases congrArg Mismatch.aspect (List.mem_singleton.mp hmem)
    · exact Registered.not_extra_named hcloses hdata hfound
  · have hother : Registry.shifted offset key ≠ .text name :=
      fun hsame => hkey (Registry.eq_text_of_shifted hsame)
    have hfound := Registered.mismatches_unnamed hcloses hother hdata
    exact ⟨hfound, fun hflaw => Except.bind_eq_ok.mpr ⟨_, hdraft, Except.bind_eq_ok.mpr
      ⟨none, hflaw, Except.bind_eq_ok.mpr ⟨_, hregistered, hfound⟩⟩⟩⟩

end YamlAudit
