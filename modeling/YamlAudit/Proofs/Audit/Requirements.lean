import YamlAudit.Proofs.Audit.Mismatches

/-!
# Audit — requirements are reported once

A search reports a missing key with a violation of its own, so a requirement with several of them is
violated several times, in between the violations of others.  The run over the violations looks at
what it has met: the first violation of a requirement reports every key that is missing, the later
ones report nothing.  Requirements are told apart by path and schema, and a schema by where it lies,
not by what it says.

* `mismatches_requirements_once`: the mismatches are the joined blocks of the violations; the block
  of a violation is given by the violation and by those before it (`Violation.Contributes`).  There
  are mismatches exactly if those for keys that are forbidden can be given.
-/

namespace YamlAudit

namespace Violation

/-- A mapping is asked for keys. -/
def AsksForKeys (v : Violation) (data : Store) : Prop :=
  v.keyword = some "required" ∧ data.entries? v.subject ≠ none

/-- A mapping has keys that are forbidden. -/
def ForbidsKeys (v : Violation) (data : Store) : Prop :=
  v.keyword = some "additionalProperties" ∧ data.entries? v.subject ≠ none

variable {v w : Violation} {schemas data : Store}

/-- The kind of a violation says whether its mapping is asked for keys or has forbidden ones. -/
theorem kind_iff (v : Violation) (data : Store) :
    (v.kind data = .missingKeys ↔ v.AsksForKeys data) ∧
      (v.kind data = .extraKeys ↔ v.ForbidsKeys data) := by
  rw [kind, AsksForKeys, ForbidsKeys]
  split
  · next h => simp [Option.isNone_iff_eq_none.mp h]
  · next h =>
    rw [Option.isNone_iff_eq_none] at h
    split <;> simp_all

theorem kind_eq_missingKeys_iff : v.kind data = .missingKeys ↔ v.AsksForKeys data :=
  (kind_iff v data).1

theorem kind_eq_extraKeys_iff : v.kind data = .extraKeys ↔ v.ForbidsKeys data :=
  (kind_iff v data).2

/-- No violation is of both kinds. -/
theorem AsksForKeys.not_forbidsKeys (h : v.AsksForKeys data) : ¬ v.ForbidsKeys data := by
  rw [← kind_eq_extraKeys_iff, kind_eq_missingKeys_iff.mpr h]
  exact nofun

/-- Violations of the same requirement: of one schema, for one place. -/
def SameRequirement (v w : Violation) : Prop := w.path = v.path ∧ w.schema = v.schema

/-- What a violation of a requirement carries: a schema that lies somewhere and a list of different
names, of which the mapping does not have all. -/
structure Requires (v : Violation) (schemas data : Store) (names : List String) : Prop where
  schema : ∃ n, v.schema = .ref n
  parts : Datum.parts ⟨schemas, v.rule⟩ = .ok (names.map .text)
  nodup : names.Nodup
  absent : ∃ name ∈ names, Value.text name ∉ (v.entries data).map Prod.fst

/-- A block has a mismatch for each listed name that the mapping does not have, in the order of the
list, and is not empty. -/
def ReportsMissing (v : Violation) (data : Store) (names : List String) (block : List Mismatch) :
    Prop :=
  block ≠ [] ∧ ∃ missing : List String, missing.Sublist names ∧
    (∀ name, name ∈ missing ↔ name ∈ names ∧ Value.text name ∉ (v.entries data).map Prod.fst) ∧
    block = missing.map fun name => ⟨"missing key '" ++ name ++ "'", v.path, .valueEnd⟩

/-- The block of mismatches that a violation adds behind those of the violations before it. -/
structure Contributes (v : Violation) (schemas data : Store) (before : List Violation)
    (block : List Mismatch) : Prop where
  /-- One in its own words. -/
  plain : ¬ v.AsksForKeys data → ¬ v.ForbidsKeys data → block = [⟨v.message, v.path, .valueStart⟩]
  /-- One for each key that is forbidden. -/
  extra : v.ForbidsKeys data → v.extraKeys schemas data = .ok block
  /-- None for a requirement that was violated before. -/
  again : v.AsksForKeys data → (∃ w ∈ before, w.AsksForKeys data ∧ v.SameRequirement w) → block = []
  /-- Those of the requirement, where it is violated for the first time. -/
  first : v.AsksForKeys data → (¬ ∃ w ∈ before, w.AsksForKeys data ∧ v.SameRequirement w) →
    ∀ names, v.Requires schemas data names → v.ReportsMissing data names block

theorem hasKey_text_iff {es : List (Value × Value)} {name : String} :
    Rules.hasKey es (.text name) = true ↔ Value.text name ∈ es.map Prod.fst := by
  rw [Rules.hasKey]
  induction es with
  | nil => simp [lookupKey]
  | cons e rest ih =>
      obtain ⟨k, x⟩ := e
      rw [lookupKey, List.map_cons, List.mem_cons]
      split
      · next h => simp [Value.eq_text_of_sameKey h]
      · next h =>
        have hne : Value.text name ≠ k := by
          rintro rfl
          exact h (beq_self_eq_true name)
        rw [ih, or_iff_right hne]

/-- The names that a mapping does not have are reported in the order of their list. -/
theorem Requires.missingKeys {names : List String} (h : v.Requires schemas data names) :
    v.missingKeys schemas data = .ok ((names.filter fun name =>
      !Rules.hasKey (v.entries data) (.text name)).map fun name =>
        ⟨"missing key '" ++ name ++ "'", v.path, .valueEnd⟩) := by
  have hfilter : ((names.map Value.text).filterM fun name => do
      return !Rules.hasKey (v.entries data) (← Datum.asKey ⟨schemas, name⟩)) =
        .ok ((names.map Value.text).filter fun name => !Rules.hasKey (v.entries data) name) := by
    refine Except.filterM_of_ok fun name hname => ?_
    obtain ⟨t, -, rfl⟩ := List.mem_map.mp hname
    rfl
  refine Except.bind_eq_ok.mpr ⟨_, h.parts, Except.bind_eq_ok.mpr ⟨_, hfilter, ?_⟩⟩
  rw [List.filter_map, List.mapM_map]
  exact Except.mapM_of_ok fun name _ => rfl

/-- The block of a requirement that is violated for the first time. -/
theorem Requires.block {names : List String} (h : v.Requires schemas data names)
    {block : List Mismatch} (hblock : v.missingKeys schemas data = .ok block) :
    v.ReportsMissing data names block := by
  obtain rfl := Except.ok.inj (hblock.symm.trans h.missingKeys)
  have hmem : ∀ name, (name ∈ names.filter fun name =>
      !Rules.hasKey (v.entries data) (.text name)) ↔
        name ∈ names ∧ Value.text name ∉ (v.entries data).map Prod.fst := by
    intro name
    rw [List.mem_filter, ← hasKey_text_iff, Bool.not_eq_true', Bool.not_eq_true]
  obtain ⟨name, hname⟩ := h.absent
  exact ⟨List.ne_nil_of_mem (List.mem_map_of_mem ((hmem name).mpr hname)), _,
    List.filter_sublist, hmem, rfl⟩

namespace Contributes

variable {before : List Violation} {block : List Mismatch}

theorem of_again (hasks : v.AsksForKeys data)
    (h : ∃ w ∈ before, w.AsksForKeys data ∧ v.SameRequirement w) :
    v.Contributes schemas data before [] where
  plain hnot := absurd hasks hnot
  extra hforbids := absurd hforbids hasks.not_forbidsKeys
  again _ _ := rfl
  first _ hnew := absurd h hnew

theorem of_first (hasks : v.AsksForKeys data)
    (hnew : ¬ ∃ w ∈ before, w.AsksForKeys data ∧ v.SameRequirement w)
    (h : v.missingKeys schemas data = .ok block) : v.Contributes schemas data before block where
  plain hnot := absurd hasks hnot
  extra hforbids := absurd hforbids hasks.not_forbidsKeys
  again _ h := absurd h hnew
  first _ _ _ hnames := hnames.block h

theorem of_extra (hforbids : v.ForbidsKeys data) (h : v.extraKeys schemas data = .ok block) :
    v.Contributes schemas data before block where
  plain _ hnot := absurd hforbids hnot
  extra _ := h
  again hasks := absurd hforbids hasks.not_forbidsKeys
  first hasks := absurd hforbids hasks.not_forbidsKeys

theorem of_plain (hasks : ¬ v.AsksForKeys data) (hforbids : ¬ v.ForbidsKeys data) :
    v.Contributes schemas data before [v.mismatch] where
  plain _ _ := rfl
  extra h := absurd h hforbids
  again h := absurd h hasks
  first h := absurd h hasks

end Contributes

theorem requirement_same_iff {n : Nat} (h : v.schema = .ref n) :
    v.requirement.same w.requirement = true ↔ v.SameRequirement w := by
  rw [Requirement.same, requirement, requirement, SameRequirement, Bool.and_eq_true, beq_iff_eq, h]
  refine and_congr eq_comm ?_
  cases w.schema with
  | ref m =>
      rw [Value.sameKey, beq_iff_eq]
      exact ⟨fun h => h ▸ rfl, fun h => (Value.ref.inj h).symm⟩
  | _ => simp [Value.sameKey]

end Violation

/-! ### The run over the violations -/

section Run

variable {schemas data : Store}

/-- What is remembered as reported are the requirements violated so far. -/
def Remembers (data : Store) (reported : List Requirement) (before : List Violation) : Prop :=
  ∀ (v : Violation) (n : Nat), v.schema = .ref n → (reported.any v.requirement.same = true ↔
    ∃ w ∈ before, w.AsksForKeys data ∧ v.SameRequirement w)

namespace Remembers

variable {reported : List Requirement} {before : List Violation} {v : Violation}

theorem nil : Remembers data [] [] := by simp [Remembers]

/-- Nothing has to be remembered of a violation that does not ask for keys, or not for the first
time. -/
theorem skip (h : Remembers data reported before)
    (hv : v.AsksForKeys data → ∃ w ∈ before, w.AsksForKeys data ∧ v.SameRequirement w) :
    Remembers data reported (before ++ [v]) := by
  intro u n hu
  rw [h u n hu]
  constructor
  · rintro ⟨w, hw, h⟩
    exact ⟨w, List.mem_append_left _ hw, h⟩
  · rintro ⟨w, hw, hasks, hpath, hschema⟩
    rcases List.mem_append.mp hw with hw | hw
    · exact ⟨w, hw, hasks, hpath, hschema⟩
    · obtain rfl := List.mem_singleton.mp hw
      obtain ⟨x, hx, hx', hpath', hschema'⟩ := hv hasks
      exact ⟨x, hx, hx', hpath'.trans hpath, hschema'.trans hschema⟩

theorem note (h : Remembers data reported before) (hv : v.AsksForKeys data) :
    Remembers data (v.requirement :: reported) (before ++ [v]) := by
  intro u n hu
  rw [List.any_cons, Bool.or_eq_true, h u n hu, Violation.requirement_same_iff hu]
  constructor
  · rintro (h | ⟨w, hw, h⟩)
    · exact ⟨v, List.mem_append_right _ (List.mem_singleton_self v), hv, h⟩
    · exact ⟨w, List.mem_append_left _ hw, h⟩
  · rintro ⟨w, hw, h⟩
    rcases List.mem_append.mp hw with hw | hw
    · exact .inr ⟨w, hw, h⟩
    · exact .inl (List.mem_singleton.mp hw ▸ h.2)

end Remembers

/-- One violation adds its block, if it has one, and the run goes on behind it. -/
theorem mismatchesFrom_step {reported : List Requirement} {before : List Violation} {v : Violation}
    (hreported : Remembers data reported before)
    (hv : v.AsksForKeys data → ∃ names, v.Requires schemas data names) (rest : List Violation) :
    ∃ (block : Except SchemaFault (List Mismatch)) (reported' : List Requirement),
      mismatchesFrom schemas data reported (v :: rest) = (do
        return (← block) ++ (← mismatchesFrom schemas data reported' rest)) ∧
      Remembers data reported' (before ++ [v]) ∧
      (∀ block', block = .ok block' → v.Contributes schemas data before block') ∧
      ((∃ block', block = .ok block') ↔
        (v.ForbidsKeys data → ∃ here, v.extraKeys schemas data = .ok here)) := by
  cases hkind : v.kind data with
  | missingKeys =>
      have hasks := Violation.kind_eq_missingKeys_iff.mp hkind
      obtain ⟨names, hnames⟩ := hv hasks
      obtain ⟨n, hn⟩ := hnames.schema
      -- a requirement is passed over exactly if it has been violated before
      by_cases hagain : ∃ w ∈ before, w.AsksForKeys data ∧ v.SameRequirement w
      · refine ⟨.ok [], reported, ?_, hreported.skip fun _ => hagain, ?_, ?_⟩
        · rw [mismatchesFrom, hkind]
          simp only [(hreported v n hn).mpr hagain, if_true]
          cases mismatchesFrom schemas data reported rest <;> rfl
        · rintro _ ⟨⟩
          exact .of_again hasks hagain
        · exact ⟨fun _ h => absurd h hasks.not_forbidsKeys, fun _ => ⟨_, rfl⟩⟩
      · refine ⟨v.missingKeys schemas data, v.requirement :: reported, ?_, hreported.note hasks,
          fun _ => .of_first hasks hagain, ?_⟩
        · have hnew : ¬ reported.any v.requirement.same = true :=
            fun h => hagain ((hreported v n hn).mp h)
          rw [mismatchesFrom, hkind]
          exact if_neg hnew
        · exact ⟨fun _ h => absurd h hasks.not_forbidsKeys, fun _ => ⟨_, hnames.missingKeys⟩⟩
  | extraKeys =>
      have hforbids := Violation.kind_eq_extraKeys_iff.mp hkind
      have hasks : ¬ v.AsksForKeys data := fun h => h.not_forbidsKeys hforbids
      refine ⟨v.extraKeys schemas data, reported, ?_, hreported.skip fun h => absurd h hasks,
        fun _ => .of_extra hforbids, fun h _ => h, fun h => h hforbids⟩
      rw [mismatchesFrom, hkind]
  | plain =>
      have hasks : ¬ v.AsksForKeys data := by simp [← Violation.kind_eq_missingKeys_iff, hkind]
      have hforbids : ¬ v.ForbidsKeys data := by simp [← Violation.kind_eq_extraKeys_iff, hkind]
      refine ⟨.ok [v.mismatch], reported, ?_, hreported.skip fun h => absurd h hasks, ?_,
        fun _ h => absurd h hforbids, fun _ => ⟨_, rfl⟩⟩
      · rw [mismatchesFrom, hkind]
        rfl
      · rintro _ ⟨⟩
        exact .of_plain hasks hforbids

/-- The run joins the blocks of the violations, and comes to its end if all of them have one. -/
theorem exists_blocks (rest : List Violation) {reported : List Requirement}
    {before : List Violation} (hreported : Remembers data reported before)
    (hrest : ∀ v ∈ rest, v.AsksForKeys data → ∃ names, v.Requires schemas data names) :
    ((∃ found, mismatchesFrom schemas data reported rest = .ok found) ↔
      ∀ v ∈ rest, v.ForbidsKeys data → ∃ here, v.extraKeys schemas data = .ok here) ∧
    ∀ found, mismatchesFrom schemas data reported rest = .ok found →
      ∃ blocks : List (List Mismatch),
      found = blocks.flatten ∧ blocks.length = rest.length ∧
      ∀ between v after, rest = between ++ v :: after → ∃ block,
        blocks[between.length]? = some block ∧
        v.Contributes schemas data (before ++ between) block := by
  induction rest generalizing reported before with
  | nil =>
      refine ⟨⟨fun _ => by simp, fun _ => ⟨[], rfl⟩⟩, fun found h => ?_⟩
      cases h
      exact ⟨[], rfl, rfl, fun between v after h => by simp at h⟩
  | cons v rest ih =>
      obtain ⟨hv, hrest⟩ := List.forall_mem_cons.mp hrest
      obtain ⟨block, reported', hstep, hreported', hblock, hok⟩ :=
        mismatchesFrom_step hreported hv rest
      obtain ⟨hiff, hblocks⟩ := ih hreported' hrest
      rw [hstep, List.forall_mem_cons, ← hok, ← hiff]
      refine ⟨?_, fun found h => ?_⟩
      · constructor
        · rintro ⟨found, h⟩
          obtain ⟨here, hhere, h⟩ := Except.bind_eq_ok.mp h
          obtain ⟨more, hmore, -⟩ := Except.bind_eq_ok.mp h
          exact ⟨⟨here, hhere⟩, more, hmore⟩
        · rintro ⟨⟨here, rfl⟩, more, hmore⟩
          exact ⟨here ++ more, Except.bind_eq_ok.mpr ⟨here, rfl,
            Except.bind_eq_ok.mpr ⟨more, hmore, rfl⟩⟩⟩
      · obtain ⟨here, hhere, h⟩ := Except.bind_eq_ok.mp h
        obtain ⟨more, hmore, h⟩ := Except.bind_eq_ok.mp h
        cases h
        obtain ⟨blocks, rfl, hlength, hall⟩ := hblocks more hmore
        -- the first block belongs to the first violation, and the others have one more before them
        refine ⟨here :: blocks, rfl, congrArg (· + 1) hlength, fun between u after heq => ?_⟩
        cases between with
        | nil =>
            obtain ⟨rfl, rfl⟩ := List.cons.inj heq
            exact ⟨here, rfl, by simpa using hblock here hhere⟩
        | cons w between =>
            obtain ⟨rfl, rfl⟩ := List.cons.inj heq
            simpa using hall between u after rfl

/-- Each requirement is reported once, where it is first violated, by the keys it lists and the
mapping does not have; every other violation is reported where it stands.  Violations have
mismatches exactly if those for keys that are forbidden can be given, and these are then the blocks
of the violations, joined in their order. -/
theorem mismatches_requirements_once {violations : List Violation}
    (h : ∀ v ∈ violations, v.AsksForKeys data → ∃ names, v.Requires schemas data names) :
    ((∃ found, Verdict.mismatches ⟨violations, none⟩ schemas data = .ok found) ↔
      ∀ v ∈ violations, v.ForbidsKeys data → ∃ here, v.extraKeys schemas data = .ok here) ∧
    ∀ found, Verdict.mismatches ⟨violations, none⟩ schemas data = .ok found →
      ∃ blocks : List (List Mismatch),
      found = blocks.flatten ∧ blocks.length = violations.length ∧
      ∀ before v after, violations = before ++ v :: after → ∃ block,
        blocks[before.length]? = some block ∧ v.Contributes schemas data before block := by
  have hrun : Verdict.mismatches ⟨violations, none⟩ schemas data =
      mismatchesFrom schemas data [] violations := by
    rw [Verdict.mismatches]
    cases mismatchesFrom schemas data [] violations <;> rfl
  rw [hrun]
  exact exists_blocks violations Remembers.nil h

/-- Two schemas that ask for names. -/
def asking : Store :=
  ⟨#[.mapping [(.text "required", .ref 1)], .list [.text "a", .text "b", .text "c"],
    .mapping [(.text "required", .ref 3), (.text "additionalProperties", .bool false)],
    .list [.text "c"]]⟩

/-- A mapping with one of the names. -/
def answering : Store := ⟨#[.mapping [(.text "b", .int 1)]]⟩

/-- Violations of both schemas, those of the first not next to one another. -/
def interleaved : List Violation :=
  [⟨"'a' is a required property", [], some "required", .ref 1, .ref 0, .ref 0⟩,
    ⟨"'c' is a required property", [], some "required", .ref 3, .ref 0, .ref 2⟩,
    ⟨"'b' was unexpected", [], some "additionalProperties", .bool false, .ref 0, .ref 2⟩,
    ⟨"1 is not of type 'string'", [.key "b"], some "type", .text "string", .int 1, .ref 0⟩,
    ⟨"'c' is a required property", [], some "required", .ref 1, .ref 0, .ref 0⟩]

theorem mismatches_requirements_once_interleaved :
    (∀ v ∈ interleaved, v.AsksForKeys answering → ∃ names, v.Requires asking answering names) ∧
    ∃ found, Verdict.mismatches ⟨interleaved, none⟩ asking answering = .ok found ∧
      ∃ blocks : List (List Mismatch), found = blocks.flatten ∧ blocks.length = 5 ∧
        ∀ before v after, interleaved = before ++ v :: after → ∃ block,
          blocks[before.length]? = some block ∧ v.Contributes asking answering before block := by
  have hrequires : ∀ v ∈ interleaved, v.AsksForKeys answering →
      ∃ names, v.Requires asking answering names := by
    have habc (m : String) : Violation.Requires
        ⟨m, [], some "required", .ref 1, .ref 0, .ref 0⟩ asking answering ["a", "b", "c"] :=
      ⟨⟨0, rfl⟩, rfl, by decide, "a", by decide,
        mt Violation.hasKey_text_iff.mpr Bool.false_ne_true⟩
    have hc (m : String) : Violation.Requires
        ⟨m, [], some "required", .ref 3, .ref 0, .ref 2⟩ asking answering ["c"] :=
      ⟨⟨2, rfl⟩, rfl, by decide, "c", by decide,
        mt Violation.hasKey_text_iff.mpr Bool.false_ne_true⟩
    simp only [interleaved, List.forall_mem_cons]
    refine ⟨fun _ => ⟨_, habc _⟩, fun _ => ⟨_, hc _⟩, fun h => ?_, fun h => ?_,
      fun _ => ⟨_, habc _⟩, by simp⟩
    · exact absurd h.1 (by decide)
    · exact absurd h.1 (by decide)
  obtain ⟨hiff, hblocks⟩ := mismatches_requirements_once hrequires
  obtain ⟨found, hfound⟩ := hiff.mpr (by
    simp only [interleaved, List.forall_mem_cons]
    refine ⟨fun h => ?_, fun h => ?_, fun _ => ⟨_, rfl⟩, fun h => ?_, fun h => ?_, by simp⟩ <;>
      exact absurd h.1 (by decide))
  exact ⟨hrequires, found, hfound, hblocks found hfound⟩

end Run

end YamlAudit
