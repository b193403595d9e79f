import YamlAudit.Proofs.Audit.Grounds

/-!
# Audit — the mismatches of a verdict

Violations become mismatches one after another (`mismatchesFrom`); a requirement is reported once.
Every violation is grounded, so the search that came to its end always has its mismatches
(`Schema.Registered.mismatches_faithful`), each of them comes from a violation, and each violation is
reported, unless it forbids keys that cannot be found again.

That happens when the patterns of a schema, joined to one, are not found where one of them is found by
itself: then the violation is lost, and in the same way a key may be reported that the schema allows
(`Schema.exists_mismatches_unfaithful`).  With at most one pattern, which is not empty, the two ways of
looking agree (`Violation.unknownKeys_eq_additionalKeys`).
-/

namespace YamlAudit

namespace Violation

/-- The mismatches by which a violation is reported. -/
def reports (v : Violation) (schemas data : Store) : Except SchemaFault (List Mismatch) :=
  match v.kind data with
  | .missingKeys => v.missingKeys schemas data
  | .extraKeys => v.extraKeys schemas data
  | .plain => .ok [v.mismatch]

variable {v : Violation} {schemas data : Store}

theorem reports_of_plain (h : v.kind data = .plain) : v.reports schemas data = .ok [v.mismatch] := by
  rw [reports, h]

theorem reports_of_missingKeys (h : v.kind data = .missingKeys) :
    v.reports schemas data = v.missingKeys schemas data := by
  rw [reports, h]

theorem reports_of_extraKeys (h : v.kind data = .extraKeys) {keys : List Value}
    (hkeys : v.unknownKeys schemas data = .ok keys) : v.reports schemas data =
      .ok (keys.map fun key => ⟨"extra key", v.path ++ [step data key], .key⟩) := by
  rw [reports, h]
  exact Except.bind_eq_ok.mpr ⟨keys, hkeys, rfl⟩

/-- A requirement with missing keys is reported by at least one mismatch. -/
theorem exists_missingKeys (h : v.ListsMissing schemas data) :
    ∃ m rest, v.missingKeys schemas data = .ok (m :: rest) := by
  obtain ⟨names, hnames, hall, name, hname, hmissing⟩ := h
  let missing := names.filter fun name => !Rules.hasKey (v.entries data) name
  have hfilter : (names.filterM fun name => do
      return !Rules.hasKey (v.entries data) (← Datum.asKey ⟨schemas, name⟩)) = .ok missing :=
    Except.filterM_of_ok fun name hname => Except.bind_eq_ok.mpr ⟨name, (hall name hname).1, rfl⟩
  let report (name : Value) : Mismatch :=
    ⟨"missing key '" ++ (Datum.told ⟨schemas, name⟩).toOption.getD "" ++ "'", v.path, .valueEnd⟩
  have hmap : (missing.mapM fun name => do
      return Mismatch.mk ("missing key '" ++ (← Datum.told ⟨schemas, name⟩) ++ "'") v.path
        .valueEnd) = .ok (missing.map report) := by
    refine Except.mapM_of_ok fun name hname => ?_
    obtain ⟨hname, hmissing⟩ := List.mem_filter.mp hname
    obtain ⟨t, ht⟩ := (hall name hname).2 (by simpa using hmissing)
    simp only [report, ht]
    rfl
  have hmem : name ∈ missing := List.mem_filter.mpr ⟨hname, by rw [hmissing]; rfl⟩
  obtain ⟨first, rest, hlist⟩ := List.exists_cons_of_ne_nil (List.ne_nil_of_mem hmem)
  refine ⟨report first, rest.map report, Except.bind_eq_ok.mpr ⟨names, hnames,
    Except.bind_eq_ok.mpr ⟨missing, hfilter, ?_⟩⟩⟩
  rw [hmap, hlist, List.map_cons]

end Violation

/-- Mismatches that stand for some violations: every violation is reported, or one of the same
requirement is, and nothing else. -/
structure Represents (schemas data : Store) (violations : List Violation) (found : List Mismatch) :
    Prop where
  complete : ∀ v ∈ violations, ∃ w ∈ violations, (w = v ∨ v.kind data = .missingKeys ∧
    w.kind data = .missingKeys ∧ v.requirement.same w.requirement) ∧
      ∃ here, w.reports schemas data = .ok here ∧ here ⊆ found
  sound : ∀ m ∈ found, ∃ v ∈ violations, ∃ here, v.reports schemas data = .ok here ∧ m ∈ here

section Run

variable {schemas data : Store}

theorem mismatchesFrom_cons {v : Violation} (h : v.kind data ≠ .missingKeys)
    (reported : List Requirement) (rest : List Violation) :
    mismatchesFrom schemas data reported (v :: rest) = do
      return (← v.reports schemas data) ++ (← mismatchesFrom schemas data reported rest) := by
  rw [mismatchesFrom, Violation.reports]
  cases hk : v.kind data with
  | missingKeys => exact absurd hk h
  | extraKeys => rfl
  | plain => rfl

/-- A requirement that has been reported is not reported again. -/
theorem mismatchesFrom_again {reported : List Requirement} {v : Violation}
    (hv : v.kind data = .missingKeys ∧ reported.any v.requirement.same = true)
    (rest : List Violation) : mismatchesFrom schemas data reported (v :: rest) =
      mismatchesFrom schemas data reported rest := by
  rw [mismatchesFrom, hv.1]
  exact if_pos hv.2

/-- Any other violation is reported in front of the others, and a requirement is noted. -/
theorem mismatchesFrom_first {reported : List Requirement} {v : Violation}
    (hv : ¬ (v.kind data = .missingKeys ∧ reported.any v.requirement.same = true))
    (rest : List Violation) : mismatchesFrom schemas data reported (v :: rest) = do
      return (← v.reports schemas data) ++ (← mismatchesFrom schemas data
        (if v.kind data = .missingKeys then v.requirement :: reported else reported) rest) := by
  by_cases hk : v.kind data = .missingKeys
  · rw [if_pos hk, mismatchesFrom, Violation.reports, hk]
    exact if_neg fun hany => hv ⟨hk, hany⟩
  · rw [if_neg hk]
    exact mismatchesFrom_cons hk _ _

/-- Every mismatch is among those by which some violation is reported. -/
theorem exists_reports_of_mem {violations : List Violation} {m : Mismatch} :
    ∀ {reported : List Requirement} {found : List Mismatch},
      mismatchesFrom schemas data reported violations = .ok found → m ∈ found →
        ∃ v ∈ violations, ∃ here, v.reports schemas data = .ok here ∧ m ∈ here := by
  induction violations with
  | nil =>
      rintro reported _ ⟨⟩ hm
      cases hm
  | cons v rest ih =>
      intro reported found hfound hm
      have hrest : ∀ {reported found}, mismatchesFrom schemas data reported rest = .ok found →
          m ∈ found → ∃ w ∈ v :: rest, ∃ here, w.reports schemas data = .ok here ∧ m ∈ here := by
        intro reported found hfound hm
        obtain ⟨w, hw, hreports⟩ := ih hfound hm
        exact ⟨w, List.mem_cons_of_mem _ hw, hreports⟩
      by_cases hv : v.kind data = .missingKeys ∧ reported.any v.requirement.same = true
      · exact hrest ((mismatchesFrom_again hv rest).symm.trans hfound) hm
      · rw [mismatchesFrom_first hv] at hfound
        obtain ⟨here, hhere, hfound⟩ := Except.bind_eq_ok.mp hfound
        obtain ⟨more, hmore, hfound⟩ := Except.bind_eq_ok.mp hfound
        cases hfound
        rcases List.mem_append.mp hm with hm | hm
        · exact ⟨v, List.mem_cons_self, here, hhere, hm⟩
        · exact hrest hmore hm

/-- One violation after another is reported, but for those of requirements that have been. -/
theorem exists_mismatchesFrom {violations : List Violation}
    (h : ∀ v ∈ violations, ∃ here, v.reports schemas data = .ok here)
    (reported : List Requirement) :
    ∃ found, mismatchesFrom schemas data reported violations = .ok found ∧
      (∀ v ∈ violations, (v.kind data = .missingKeys ∧ reported.any v.requirement.same = true) ∨
        ∃ w ∈ violations, (w = v ∨ v.kind data = .missingKeys ∧ w.kind data = .missingKeys ∧
          v.requirement.same w.requirement) ∧
          ∃ here, w.reports schemas data = .ok here ∧ here ⊆ found) ∧
      ∀ m ∈ found, ∃ v ∈ violations, ∃ here, v.reports schemas data = .ok here ∧ m ∈ here := by
  induction violations generalizing reported with
  | nil => exact ⟨[], rfl, (fun _ h => nomatch h), fun _ h => nomatch h⟩
  | cons v rest ih =>
      obtain ⟨here, hhere⟩ := h v List.mem_cons_self
      have ih := ih fun w hw => h w (List.mem_cons_of_mem _ hw)
      by_cases hreported : v.kind data = .missingKeys ∧ reported.any v.requirement.same = true
      · -- nothing new is reported
        obtain ⟨found, hfound, hcomplete, hsound⟩ := ih reported
        refine ⟨found, ?_, List.forall_mem_cons.mpr ⟨.inl hreported, fun w hw => ?_⟩,
          fun m hm => ?_⟩
        · exact (mismatchesFrom_again hreported rest).trans hfound
        · obtain hleft | ⟨u, hu, hsame⟩ := hcomplete w hw
          · exact .inl hleft
          · exact .inr ⟨u, List.mem_cons_of_mem _ hu, hsame⟩
        · obtain ⟨w, hw, hm⟩ := hsound m hm
          exact ⟨w, List.mem_cons_of_mem _ hw, hm⟩
      · -- the violation is reported in front of the others, and counts as reported if it asks for keys
        let reported' := if v.kind data = .missingKeys then v.requirement :: reported else reported
        have hreported' : ∀ w : Violation, reported'.any w.requirement.same = true →
            reported.any w.requirement.same = true ∨
              v.kind data = .missingKeys ∧ w.requirement.same v.requirement := by
          intro w hw
          dsimp only [reported'] at hw
          split at hw
          · next hk =>
            rw [List.any_cons, Bool.or_eq_true] at hw
            exact hw.symm.imp id fun hw => ⟨hk, hw⟩
          · exact .inl hw
        obtain ⟨found, hfound, hcomplete, hsound⟩ := ih reported'
        refine ⟨here ++ found, ?_, List.forall_mem_cons.mpr ⟨?_, fun w hw => ?_⟩, fun m hm => ?_⟩
        · rw [mismatchesFrom_first hreported]
          exact Except.bind_eq_ok.mpr ⟨here, hhere, Except.bind_eq_ok.mpr ⟨found, hfound, rfl⟩⟩
        · exact .inr ⟨v, List.mem_cons_self, .inl rfl, here, hhere, List.subset_append_left _ _⟩
        · obtain ⟨hk, hany⟩ | ⟨u, hu, hsame, there, hthere, hsub⟩ := hcomplete w hw
          · obtain hany | ⟨hv, hsame⟩ := hreported' w hany
            · exact .inl ⟨hk, hany⟩
            · exact .inr ⟨v, List.mem_cons_self, .inr ⟨hk, hv, hsame⟩, here, hhere,
                List.subset_append_left _ _⟩
          · exact .inr ⟨u, List.mem_cons_of_mem _ hu, hsame, there, hthere,
              List.Subset.trans hsub (List.subset_append_right _ _)⟩
        · rcases List.mem_append.mp hm with hm | hm
          · exact ⟨v, List.mem_cons_self, here, hhere, hm⟩
          · obtain ⟨w, hw, hm⟩ := hsound m hm
            exact ⟨w, List.mem_cons_of_mem _ hw, hm⟩

/-- Violations that can be reported have their mismatches. -/
theorem exists_represents {violations : List Violation}
    (h : ∀ v ∈ violations, ∃ here, v.reports schemas data = .ok here) :
    ∃ found, mismatchesFrom schemas data [] violations = .ok found ∧
      Represents schemas data violations found := by
  obtain ⟨found, hfound, hcomplete, hsound⟩ := exists_mismatchesFrom h []
  exact ⟨found, hfound, ⟨fun v hv => (hcomplete v hv).resolve_left (by simp), hsound⟩⟩

/-- Nothing is found when and only when no violation is reported. -/
theorem Represents.eq_nil_iff {violations : List Violation} {found : List Mismatch}
    (h : Represents schemas data violations found)
    (hmissing : ∀ v ∈ violations, v.kind data = .missingKeys → v.reports schemas data ≠ .ok []) :
    found = [] ↔ ∀ v ∈ violations, v.reports schemas data = .ok [] := by
  constructor
  · rintro rfl v hv
    obtain ⟨w, hw, rfl | ⟨-, hk, -⟩, here, hhere, hsub⟩ := h.complete v hv
    · rwa [List.subset_nil.mp hsub] at hhere
    · rw [List.subset_nil.mp hsub] at hhere
      exact absurd hhere (hmissing w hw hk)
  · intro hall
    refine List.eq_nil_iff_forall_not_mem.mpr fun m hm => ?_
    obtain ⟨v, hv, here, hhere, hmem⟩ := h.sound m hm
    rw [hall v hv] at hhere
    cases hhere
    cases hmem

end Run

namespace Violation

variable {registry : Registry} {data : Store} {v : Violation}

theorem foundInAny_singleton (schemas : Store) (key source : Value) :
    foundInAny schemas key [source] =
      (Site.pattern ⟨schemas, source⟩).map fun p => Site.foundInKey p key := by
  rw [foundInAny]
  cases Site.pattern ⟨schemas, source⟩ with
  | error f => rfl
  | ok p => cases h : Site.foundInKey p key <;> simp [bind, Except.bind, Except.map, pure,
      Except.pure, foundInAny, h]

/-- With no pattern beside it, or with a single one that is not empty, a keyword that forbids keys
forbids the keys that are found again. -/
theorem unknownKeys_eq_additionalKeys (hpatterns : ∀ patterns,
      Datum.member? ⟨registry.store, v.schema⟩ "patternProperties" = some patterns →
        ∃ source, source ≠ "" ∧ patterns.parts = .ok [.text source]) :
    v.unknownKeys registry.store data = v.additionalKeys registry data := by
  let s := v.site registry data
  -- at most one pattern, so joining changes nothing, and it is not empty, so it is asked for
  obtain ⟨source, hjoined, hkey⟩ : ∃ source, Rules.joinedPatterns s = .ok source ∧
      ∀ key, Rules.isUnknown s key = do
        if ← Rules.isNamed s key then return false
        else if source = "" then return true
        else return !Site.foundInKey (← Site.pattern (s.ruleDatum (.text source))) key := by
    cases hp : s.beside? "patternProperties" with
    | none =>
        refine ⟨"", by rw [Rules.joinedPatterns, hp]; rfl, fun key => ?_⟩
        rw [Rules.isUnknown, hp]
        rfl
    | some patterns =>
        obtain ⟨source, hne, hparts⟩ := hpatterns patterns hp
        refine ⟨source, ?_, fun key => ?_⟩
        · rw [Rules.joinedPatterns, hp]
          simp only [hparts, Rules.patternTexts]
          rfl
        · rw [Rules.isUnknown, hp]
          simp only [hparts, if_neg hne]
          refine congrArg (Rules.isNamed s key >>= ·) (funext fun named => ?_)
          cases named with
          | true => rfl
          | false =>
              show (foundInAny s.registry.store key [.text source] >>= fun b => pure !b) =
                (Site.pattern ⟨s.registry.store, .text source⟩ >>=
                  fun p => pure !Site.foundInKey p key)
              rw [foundInAny_singleton]
              cases Site.pattern ⟨s.registry.store, .text source⟩ <;> rfl
  have hmembers : Rules.additionalMembers s (v.entries data) =
      (v.entries data).filterM fun e => Rules.isUnknown s e.1 := by
    rw [Rules.additionalMembers, hjoined]
    exact congrArg (List.filterM · (v.entries data)) (funext fun e => (hkey e.1).symm)
  rw [Rules.unknownKeys_eq, Except.filterM_map, additionalKeys, hmembers]

end Violation

/-! ### The mismatches of a schema -/

namespace Violation.Grounded

variable {registry : Registry} {data : Store} {v : Violation}

/-- A violation that rests on something is reported, unless it forbids keys that are not found. -/
theorem exists_reports (h : v.Grounded registry data)
    (hasked : v.kind data = .missingKeys → v.AskedByMember registry.store data →
      ∃ m rest, v.missingKeys registry.store data = .ok (m :: rest)) :
    ∃ here, v.reports registry.store data = .ok here ∧
      (here = [] → v.kind data = .extraKeys ∧ v.unknownKeys registry.store data = .ok []) := by
  cases h with
  | plain hk => exact ⟨_, reports_of_plain hk, nofun⟩
  | listed hk hl =>
      obtain ⟨m, rest, hmissing⟩ := exists_missingKeys hl
      exact ⟨_, (reports_of_missingKeys hk).trans hmissing, nofun⟩
  | asked hk ha =>
      obtain ⟨m, rest, hmissing⟩ := hasked hk ha
      exact ⟨_, (reports_of_missingKeys hk).trans hmissing, nofun⟩
  | extra hk _ _ hunknown =>
      refine ⟨_, reports_of_extraKeys hk hunknown, fun hnil => ⟨hk, ?_⟩⟩
      rw [hunknown, List.map_eq_nil_iff.mp hnil]

theorem exists_additionalKeys (h : v.Grounded registry data) (hk : v.kind data = .extraKeys) :
    ∃ keys, v.additionalKeys registry data = .ok keys ∧ keys ≠ [] := by
  cases h with
  | plain hk' | listed hk' | asked hk' => rw [hk] at hk'; cases hk'
  | extra _ hkeys hne => exact ⟨_, hkeys, hne⟩

end Violation.Grounded

namespace Schema

open Violation

/-- A search that came to its end has its mismatches.  They stand for its violations, each of which is
reported by at least one of them unless it forbids keys, and there are none when and only when every
violation forbids keys none of which is found again.  Where the keys that are found again are the
additional ones, there are none when and only when there is no violation, and each additional key is
reported.  A requirement of a member's own schema has to list some missing key to be reported as
one. -/
theorem Registered.mismatches_faithful {r : Registered} {data : Datum}
    (hfault : (r.verdict data).fault = none)
    (hasked : ∀ v ∈ (r.verdict data).violations, v.kind data.store = .missingKeys →
      v.AskedByMember r.registry.store data.store →
        ∃ m rest, v.missingKeys r.registry.store data.store = .ok (m :: rest)) :
    ∃ found, (r.verdict data).mismatches r.registry.store data.store = .ok found ∧
      (∀ expected draft, draftOf expected = .ok draft → firstFlaw draft expected = .ok none →
        registered draft expected = .ok r → mismatches expected data = .ok found) ∧
      Represents r.registry.store data.store (r.verdict data).violations found ∧
      (∀ v ∈ (r.verdict data).violations, v.kind data.store ≠ .extraKeys →
        ∃ m rest, v.reports r.registry.store data.store = .ok (m :: rest)) ∧
      (found = [] ↔ ∀ v ∈ (r.verdict data).violations, v.kind data.store = .extraKeys ∧
        v.unknownKeys r.registry.store data.store = .ok []) ∧
      ((∀ v ∈ (r.verdict data).violations, v.kind data.store = .extraKeys →
          v.unknownKeys r.registry.store data.store = v.additionalKeys r.registry data.store) →
        (found = [] ↔ (r.verdict data).violations = []) ∧
        ∀ v ∈ (r.verdict data).violations, v.kind data.store = .extraKeys →
          ∃ keys, v.additionalKeys r.registry data.store = .ok keys ∧ keys ≠ [] ∧
            v.reports r.registry.store data.store =
              .ok (keys.map fun key =>
                ⟨"extra key", v.path ++ [Violation.step data.store key], .key⟩)) := by
  have hgrounded := r.grounded data hfault
  have hreported := fun v hv => (hgrounded v hv).exists_reports (hasked v hv)
  obtain ⟨found, hfound, hrepresents⟩ :=
    exists_represents fun v hv => (hreported v hv).imp fun _ h => h.1
  have hmismatches : (r.verdict data).mismatches r.registry.store data.store = .ok found := by
    rw [Verdict.mismatches, hfound, hfault]
    rfl
  -- only a violation that forbids keys may come to nothing: the others have what they rest on
  have hsome : ∀ v ∈ (r.verdict data).violations, v.kind data.store ≠ .extraKeys →
      ∃ m rest, v.reports r.registry.store data.store = .ok (m :: rest) := by
    intro v hv hk
    obtain ⟨here, hhere, hextra⟩ := hreported v hv
    cases here with
    | nil => exact absurd (hextra rfl).1 hk
    | cons m rest => exact ⟨m, rest, hhere⟩
  have hnil : found = [] ↔ ∀ v ∈ (r.verdict data).violations, v.kind data.store = .extraKeys ∧
      v.unknownKeys r.registry.store data.store = .ok [] := by
    rw [hrepresents.eq_nil_iff fun v hv hk hnil => ?_]
    · refine forall₂_congr fun v hv => ⟨fun hnil => ?_, fun h => reports_of_extraKeys h.1 h.2⟩
      obtain ⟨here, hhere, hextra⟩ := hreported v hv
      exact hextra (Except.ok.inj (hhere.symm.trans hnil))
    · obtain ⟨m, rest, hhere⟩ := hsome v hv (by rw [hk]; exact nofun)
      cases hhere.symm.trans hnil
  refine ⟨found, hmismatches, fun expected draft hdraft hflaw hr => ?_, hrepresents, hsome, hnil,
    fun hagree => ⟨⟨fun h => ?_, fun h => ?_⟩, fun v hv hk => ?_⟩⟩
  · exact Except.bind_eq_ok.mpr ⟨draft, hdraft, Except.bind_eq_ok.mpr ⟨none, hflaw,
      Except.bind_eq_ok.mpr ⟨r, hr, hmismatches⟩⟩⟩
  · -- an additional key would have been found again
    refine List.eq_nil_iff_forall_not_mem.mpr fun v hv => ?_
    obtain ⟨hk, hunknown⟩ := hnil.mp h v hv
    obtain ⟨keys, hkeys, hne⟩ := (hgrounded v hv).exists_additionalKeys hk
    rw [hagree v hv hk, hkeys] at hunknown
    exact hne (Except.ok.inj hunknown)
  · exact hnil.mpr (by simp [h])
  · obtain ⟨keys, hkeys, hne⟩ := (hgrounded v hv).exists_additionalKeys hk
    exact ⟨keys, hkeys, hne, reports_of_extraKeys hk ((hagree v hv hk).trans hkeys)⟩

/-- A schema that can refer to itself only. -/
def Registered.alone (schema : Datum) : Registered :=
  let (content, registry) := Registry.empty.absorb schema
  ⟨registry.add "" .latest content, .latest, "", content⟩

/-- The schema that asks for some members and forbids those with none of some patterns. -/
def askingFor (required patterns : List String) : Datum :=
  ⟨⟨#[.mapping [(.text "required", .ref 1), (.text "patternProperties", .ref 2),
      (.text "additionalProperties", .bool false)],
    .list (required.map .text), .mapping (patterns.map fun p => (.text p, .bool true))]⟩, .ref 0⟩

/-- A mapping with numbers under some names. -/
def numbering (names : List String) : Datum :=
  ⟨⟨#[.mapping (names.map fun name => (.text name, .int 1))]⟩, .ref 0⟩

theorem Registered.mismatches_faithful_missingMember :
    let r := Registered.alone (askingFor ["b", "c"] ["z"])
    let data := numbering ["a", "b", "z"]
    (r.verdict data).fault = none ∧ (r.verdict data).violations.length = 2 ∧ ∃ found,
      (r.verdict data).mismatches r.registry.store data.store = .ok found ∧
      Represents r.registry.store data.store (r.verdict data).violations found ∧
      ∀ v ∈ (r.verdict data).violations, v.kind data.store ≠ .extraKeys →
        ∃ m rest, v.reports r.registry.store data.store = .ok (m :: rest) := by
  intro r data
  have hfault : (r.verdict data).fault = none := Option.isNone_iff_eq_none.mp (by decide +kernel)
  have hlisted : ((r.verdict data).violations.all fun v => v.kind data.store != .missingKeys ||
      (v.missingKeys r.registry.store data.store).toOption.any fun l => !l.isEmpty) = true := by
    decide +kernel
  have hasked : ∀ v ∈ (r.verdict data).violations, v.kind data.store = .missingKeys →
      v.AskedByMember r.registry.store data.store →
        ∃ m rest, v.missingKeys r.registry.store data.store = .ok (m :: rest) := by
    intro v hv hk _
    have hv := List.all_eq_true.mp hlisted v hv
    rw [hk, bne_self_eq_false, Bool.false_or] at hv
    obtain ⟨here, hhere, hne⟩ := Except.exists_ok_of_any hv
    cases here with
    | nil => cases hne
    | cons m rest => exact ⟨m, rest, hhere⟩
  obtain ⟨found, hfound, -, hrepresents, hsome, -⟩ := Registered.mismatches_faithful hfault hasked
  exact ⟨hfault, by decide +kernel, found, hfound, hrepresents, hsome⟩

/-- A schema may forbid a member without a mismatch for it, and a member that it allows may be
reported: the patterns `(?i)a` and `b` joined to one are found in `B`, neither of them by itself. -/
theorem exists_mismatches_unfaithful :
    (let r := Registered.alone (askingFor [] [""])
      let data := numbering ["a"]
      (r.verdict data).fault = none ∧ (r.verdict data).violations ≠ [] ∧
        (r.verdict data).mismatches r.registry.store data.store = .ok []) ∧
    let r := Registered.alone (askingFor [] ["(?i)a", "b"])
    let data := numbering ["B", "z"]
    (r.verdict data).fault = none ∧
      (∀ v ∈ (r.verdict data).violations, ∃ keys, v.additionalKeys r.registry data.store = .ok keys ∧
        ∀ key ∈ keys, key.sameKey (.text "B") = false) ∧
      ∃ found, (r.verdict data).mismatches r.registry.store data.store = .ok found ∧
        ⟨"extra key", [.key "B"], .key⟩ ∈ found := by
  refine ⟨?_, ?_⟩
  · -- the empty pattern is found in every key, but joined patterns that are empty ask for nothing
    intro r data
    have hfound : ((r.verdict data).mismatches r.registry.store data.store).toOption.any
        (fun found => found.isEmpty) = true := by decide +kernel
    obtain ⟨found, hfound, hempty⟩ := Except.exists_ok_of_any hfound
    obtain rfl := List.isEmpty_iff.mp hempty
    refine ⟨Option.isNone_iff_eq_none.mp (by decide +kernel), fun hnil => ?_, hfound⟩
    have hlength : (r.verdict data).violations.length = 1 := by decide +kernel
    rw [hnil] at hlength
    cases hlength
  · -- the flag of the first pattern holds for all of them once they are joined
    intro r data
    have hkeys : ((r.verdict data).violations.all fun v =>
        (v.additionalKeys r.registry data.store).toOption.any fun keys =>
          keys.all fun key => !key.sameKey (.text "B")) = true := by decide +kernel
    have hfound : ((r.verdict data).mismatches r.registry.store data.store).toOption.any
        (fun found => decide (⟨"extra key", [.key "B"], .key⟩ ∈ found)) = true := by decide +kernel
    obtain ⟨found, hfound, hmem⟩ := Except.exists_ok_of_any hfound
    refine ⟨Option.isNone_iff_eq_none.mp (by decide +kernel), fun v hv => ?_, found, hfound,
      of_decide_eq_true hmem⟩
    obtain ⟨keys, hok, hall⟩ := Except.exists_ok_of_any (List.all_eq_true.mp hkeys v hv)
    exact ⟨keys, hok, fun key hkey => by simpa using List.all_eq_true.mp hall key hkey⟩

end Schema

end YamlAudit
