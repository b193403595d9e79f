import YamlAudit.Audit.Structure
import YamlAudit.Proofs.Audit.Agreement
import YamlAudit.Proofs.Schema.Branches

/-!
# Audit — what is shared in a structure

Two structures may say the same where one has a part once, in several places, and the other has it
several times.  The violations they give rise to say the same as well (`Violation.Agrees`).  But
requirements are told apart by where their schemas lie, so the one structure may report missing keys
once where the other repeats them.  The two runs over the violations go side by side (`InStep`); what
they add differs in nothing but missing keys that have come before (`AddAlike`).

* `Schema.Registered.mismatches_alike`: the results differ in nothing but such repetitions, and not at
  all where the same requirements are shared.
* `Schema.exists_mismatches_ne`: a structure with an alias and the same structure with the alias
  written out, and a key that the one reports once and the other twice.
-/

namespace YamlAudit

open Schema

/-! ### Repetitions -/

/-- Mismatches but for those of missing keys that have come before, or are among `seen`. -/
def withoutRepeats (seen : List Mismatch) : List Mismatch → List Mismatch
  | [] => []
  | m :: rest =>
    if m.aspect = .valueEnd ∧ m ∈ seen then withoutRepeats seen rest
    else m :: withoutRepeats (m :: seen) rest

section Repeats

variable {seen seen' found block : List Mismatch} {m : Mismatch}

/-- All that counts is what has come before, not in which order. -/
theorem withoutRepeats_congr (h : ∀ m, m ∈ seen ↔ m ∈ seen') :
    withoutRepeats seen found = withoutRepeats seen' found := by
  induction found generalizing seen seen' with
  | nil => rfl
  | cons m rest ih =>
      simp only [withoutRepeats, h m]
      split
      · exact ih h
      · exact congrArg (m :: ·) (ih fun x => by rw [List.mem_cons, List.mem_cons, h])

theorem withoutRepeats_append : withoutRepeats seen (block ++ found) =
    withoutRepeats seen block ++ withoutRepeats (block ++ seen) found := by
  induction block generalizing seen with
  | nil => rfl
  | cons m rest ih =>
      rw [List.cons_append, withoutRepeats, withoutRepeats, ih, ih]
      split
      · next hm =>
        refine congrArg (_ ++ ·) (withoutRepeats_congr fun x => ?_)
        rw [List.cons_append, List.mem_cons]
        exact ⟨.inr, fun hx => hx.elim (fun heq => heq ▸ List.mem_append_right _ hm.2) id⟩
      · rw [List.cons_append]
        refine congrArg (_ :: _ ++ ·) (withoutRepeats_congr fun x => ?_)
        rw [List.mem_append, List.cons_append, List.mem_cons, List.mem_cons, List.mem_append]
        tauto

/-- Missing keys that have come before do not count. -/
theorem withoutRepeats_again (h : ∀ m ∈ block, m.aspect = .valueEnd ∧ m ∈ seen) :
    withoutRepeats seen (block ++ found) = withoutRepeats seen found := by
  induction block with
  | nil => rfl
  | cons m rest ih =>
      obtain ⟨hm, hrest⟩ := List.forall_mem_cons.mp h
      rw [List.cons_append, withoutRepeats, if_pos hm, ih hrest]

theorem mem_of_mem_withoutRepeats (h : m ∈ withoutRepeats seen found) : m ∈ found := by
  induction found generalizing seen with
  | nil => cases h
  | cons x rest ih =>
      rw [withoutRepeats] at h
      split at h
      · exact List.mem_cons_of_mem _ (ih h)
      · rcases List.mem_cons.mp h with rfl | h
        · exact List.mem_cons_self
        · exact List.mem_cons_of_mem _ (ih h)

theorem mem_seen_or_withoutRepeats (h : m ∈ found) : m ∈ seen ∨ m ∈ withoutRepeats seen found := by
  induction found generalizing seen with
  | nil => cases h
  | cons x rest ih =>
      rw [withoutRepeats]
      split
      · next hx =>
        rcases List.mem_cons.mp h with rfl | h
        · exact .inl hx.2
        · exact ih h
      · rcases List.mem_cons.mp h with rfl | h
        · exact .inr List.mem_cons_self
        · rcases @ih (x :: seen) h with h | h
          · exact (List.mem_cons.mp h).elim (fun h => .inr (h ▸ List.mem_cons_self)) .inl
          · exact .inr (List.mem_cons_of_mem _ h)

/-- Nothing gets lost. -/
theorem mem_withoutRepeats : m ∈ withoutRepeats [] found ↔ m ∈ found :=
  ⟨mem_of_mem_withoutRepeats,
    fun h => (mem_seen_or_withoutRepeats h).resolve_left List.not_mem_nil⟩

end Repeats

/-! ### Two runs -/

/-- A requirement adds its block, or nothing if it has been reported. -/
theorem Remembers.report {schemas data : Store} {reported : List Requirement}
    {before : List Violation} {v : Violation} {block : List Mismatch}
    (h : Remembers data reported before) (hv : v.AsksForKeys data) (hschema : ∃ n, v.schema = .ref n)
    (hblock : v.missingKeys schemas data = .ok block) :
    ∃ here next, (∀ rest, mismatchesFrom schemas data reported (v :: rest) =
        (mismatchesFrom schemas data next rest).map (here ++ ·)) ∧
      Remembers data next (before ++ [v]) ∧
      ((∃ u ∈ before, u.AsksForKeys data ∧ v.SameRequirement u) → here = []) ∧
      ((¬ ∃ u ∈ before, u.AsksForKeys data ∧ v.SameRequirement u) → here = block) := by
  have hkind := Violation.kind_eq_missingKeys_iff.mpr hv
  obtain ⟨n, hn⟩ := hschema
  by_cases hagain : ∃ u ∈ before, u.AsksForKeys data ∧ v.SameRequirement u
  · refine ⟨[], reported, fun rest => ?_, h.skip fun _ => hagain, fun _ => rfl,
      fun hnot => absurd hagain hnot⟩
    rw [mismatchesFrom_again ⟨hkind, (h v n hn).mpr hagain⟩]
    cases mismatchesFrom schemas data reported rest <;> rfl
  · refine ⟨block, v.requirement :: reported, fun rest => ?_, h.note hv,
      fun h => absurd h hagain, fun _ => rfl⟩
    rw [mismatchesFrom_first fun hreported => hagain ((h v n hn).mp hreported.2), if_pos hkind,
      Violation.reports_of_missingKeys hkind, hblock]
    cases mismatchesFrom schemas data (v.requirement :: reported) rest <;> rfl

/-- Two violations, one for each structure, that say the same, and what their reports rest on. -/
structure Paired (s t : Store) (data : Datum) (p : Violation × Violation) : Prop where
  agrees : p.1.Agrees s t p.2
  founded : p.1.AsksForKeys data.store → p.1.Founded s data
  ownKeys : p.1.ForbidsKeys data.store → p.1.HasOwnKeys data.store

/-- The same requirements are one in both structures. -/
def SharedAlike (data : Store) (pairs : List (Violation × Violation)) : Prop :=
  ∀ p ∈ pairs, ∀ q ∈ pairs, p.1.AsksForKeys data → q.1.AsksForKeys data →
    (p.1.SameRequirement q.1 ↔ p.2.SameRequirement q.2)

theorem SharedAlike.mono {data : Store} {pairs pairs' : List (Violation × Violation)}
    (h : SharedAlike data pairs') (hsub : pairs ⊆ pairs') : SharedAlike data pairs :=
  fun p hp q hq => h p (hsub hp) q (hsub hq)

section Runs

variable {s t : Store} {data : Datum} {p : Violation × Violation}

/-- A requirement has the same block in both structures. -/
theorem Paired.exists_block (hp : Paired s t data p) (hasks : p.1.AsksForKeys data.store) :
    ∃ block, p.1.missingKeys s data.store = .ok block ∧ p.2.missingKeys t data.store = .ok block ∧
      (∀ m ∈ block, m.aspect = .valueEnd) ∧ (∃ n, p.1.schema = .ref n) ∧
      ∃ n, p.2.schema = .ref n := by
  obtain ⟨names, hnames⟩ := (hp.founded hasks).names
  refine ⟨_, hnames.missingKeys, (hp.agrees.missingKeys hnames).symm.trans hnames.missingKeys,
    fun m hm => ?_, hnames.schema, (hp.agrees.requires hnames).schema⟩
  obtain ⟨name, -, rfl⟩ := List.mem_map.mp hm
  rfl

/-- Two runs side by side: what either has reported are its violations so far, and the missing keys of
these are among `seen`. -/
structure InStep (s t : Store) (data : Datum) (before : List (Violation × Violation))
    (seen : List Mismatch) (reported reported' : List Requirement) : Prop where
  paired : ∀ q ∈ before, Paired s t data q
  left : Remembers data.store reported (before.map Prod.fst)
  right : Remembers data.store reported' (before.map Prod.snd)
  noted : ∀ q ∈ before, q.1.AsksForKeys data.store →
    ∀ block, q.1.missingKeys s data.store = .ok block → block ⊆ seen

/-- What two runs add for two violations that say the same: it counts for the same, and is the same
where the same requirements are shared. -/
structure AddAlike (data : Store) (pairs : List (Violation × Violation))
    (seen block here here' : List Mismatch) : Prop where
  left : ∀ found, withoutRepeats seen (here ++ found) = withoutRepeats seen (block ++ found)
  right : ∀ found, withoutRepeats seen (here' ++ found) = withoutRepeats seen (block ++ found)
  same : SharedAlike data pairs → here = here'

namespace InStep

variable {before : List (Violation × Violation)} {seen block : List Mismatch}
  {reported reported' next next' : List Requirement}

theorem start : InStep s t data [] [] [] [] :=
  ⟨by simp, .nil, .nil, by simp⟩

/-- The runs are in step behind two violations. -/
theorem advance (h : InStep s t data before seen reported reported') (hp : Paired s t data p)
    (hleft : Remembers data.store next (before.map Prod.fst ++ [p.1]))
    (hright : Remembers data.store next' (before.map Prod.snd ++ [p.2]))
    (hblock : p.1.AsksForKeys data.store → p.1.missingKeys s data.store = .ok block) :
    InStep s t data (before ++ [p]) (block ++ seen) next next' where
  paired := by
    intro q hq
    rcases List.mem_append.mp hq with hq | hq
    · exact h.paired q hq
    · exact List.mem_singleton.mp hq ▸ hp
  left := by simpa using hleft
  right := by simpa using hright
  noted := by
    intro q hq hasks here hhere
    rcases List.mem_append.mp hq with hq | hq
    · exact List.subset_append_of_subset_right _ (h.noted q hq hasks here hhere)
    · obtain rfl := List.mem_singleton.mp hq
      obtain rfl := Except.ok.inj ((hblock hasks).symm.trans hhere)
      exact List.subset_append_left _ _

/-- The keys of a requirement that has been violated before, in either structure, have been seen. -/
theorem seen_again (h : InStep s t data before seen reported reported') (hp : Paired s t data p)
    (hasks : p.1.AsksForKeys data.store) (hblock : p.1.missingKeys s data.store = .ok block)
    (hagain : (∃ u ∈ before.map Prod.fst, u.AsksForKeys data.store ∧ p.1.SameRequirement u) ∨
      ∃ u ∈ before.map Prod.snd, u.AsksForKeys data.store ∧ p.2.SameRequirement u) :
    block ⊆ seen := by
  rcases hagain with ⟨_, hu, hasked, hsame⟩ | ⟨_, hu, hasked, hsame⟩
  · obtain ⟨q, hq, rfl⟩ := List.mem_map.mp hu
    refine h.noted q hq hasked block ?_
    rw [← (hp.founded hasks).missingKeys ((h.paired q hq).founded hasked) hsame, hblock]
  · obtain ⟨q, hq, rfl⟩ := List.mem_map.mp hu
    have hagrees := (h.paired q hq).agrees
    have hasked := hagrees.asksForKeys.mpr hasked
    refine h.noted q hq hasked block ?_
    rw [← (hp.founded hasks).missingKeys_of_agrees ((h.paired q hq).founded hasked) hp.agrees
      hagrees hsame, hblock]

/-- A requirement that is shared alike has been violated before in both structures or in neither. -/
theorem again_iff (h : InStep s t data before seen reported reported')
    (hasks : p.1.AsksForKeys data.store) (hshared : SharedAlike data.store (before ++ [p])) :
    (∃ u ∈ before.map Prod.fst, u.AsksForKeys data.store ∧ p.1.SameRequirement u) ↔
      ∃ u ∈ before.map Prod.snd, u.AsksForKeys data.store ∧ p.2.SameRequirement u := by
  simp only [List.mem_map, exists_exists_and_eq_and]
  refine exists_congr fun q => and_congr_right fun hq => ?_
  rw [← (h.paired q hq).agrees.asksForKeys]
  exact and_congr_right fun hasked => hshared p (by simp) q (by simp [hq]) hasks hasked

/-- Two violations of requirements. -/
theorem step_asks (h : InStep s t data before seen reported reported') (hp : Paired s t data p)
    (hasks : p.1.AsksForKeys data.store) :
    ∃ here here' block next next',
      (∀ rest, mismatchesFrom s data.store reported (p.1 :: rest) =
        (mismatchesFrom s data.store next rest).map (here ++ ·)) ∧
      (∀ rest, mismatchesFrom t data.store reported' (p.2 :: rest) =
        (mismatchesFrom t data.store next' rest).map (here' ++ ·)) ∧
      AddAlike data.store (before ++ [p]) seen block here here' ∧
      InStep s t data (before ++ [p]) (block ++ seen) next next' := by
  obtain ⟨block, hblock, hblock', hend, hschema, hschema'⟩ := hp.exists_block hasks
  obtain ⟨here, next, hrun, hnext, hagain, hfirst⟩ := h.left.report hasks hschema hblock
  obtain ⟨here', next', hrun', hnext', hagain', hfirst'⟩ :=
    h.right.report (hp.agrees.asksForKeys.mp hasks) hschema' hblock'
  refine ⟨here, here', block, next, next', hrun, hrun', ⟨fun found => ?_, fun found => ?_,
    fun hshared => ?_⟩, h.advance hp hnext hnext' fun _ => hblock⟩
  · by_cases hu : ∃ u ∈ before.map Prod.fst, u.AsksForKeys data.store ∧ p.1.SameRequirement u
    · rw [hagain hu, List.nil_append, withoutRepeats_again fun m hm =>
        ⟨hend m hm, h.seen_again hp hasks hblock (.inl hu) hm⟩]
    · rw [hfirst hu]
  · by_cases hu : ∃ u ∈ before.map Prod.snd, u.AsksForKeys data.store ∧ p.2.SameRequirement u
    · rw [hagain' hu, List.nil_append, withoutRepeats_again fun m hm =>
        ⟨hend m hm, h.seen_again hp hasks hblock (.inr hu) hm⟩]
    · rw [hfirst' hu]
  · by_cases hu : ∃ u ∈ before.map Prod.fst, u.AsksForKeys data.store ∧ p.1.SameRequirement u
    · rw [hagain hu, hagain' ((h.again_iff hasks hshared).mp hu)]
    · rw [hfirst hu, hfirst' (mt (h.again_iff hasks hshared).mpr hu)]

end InStep

/-- The two runs differ in nothing but missing keys that one of them repeats. -/
theorem mismatchesFrom_alike {pairs before : List (Violation × Violation)} {seen : List Mismatch}
    {reported reported' : List Requirement} (hpairs : ∀ p ∈ pairs, Paired s t data p)
    (h : InStep s t data before seen reported reported') :
    Except.Rel (fun found found' => withoutRepeats seen found = withoutRepeats seen found' ∧
        (SharedAlike data.store (before ++ pairs) → found = found'))
      (mismatchesFrom s data.store reported (pairs.map Prod.fst))
      (mismatchesFrom t data.store reported' (pairs.map Prod.snd)) := by
  -- by induction on the pairs that are left, with those before them general
  induction pairs generalizing before seen reported reported' with
  | nil => exact .ok ⟨rfl, fun _ => rfl⟩
  | cons p rest ih =>
      obtain ⟨hp, hrest⟩ := List.forall_mem_cons.mp hpairs
      rw [List.append_cons, List.map_cons, List.map_cons]
      by_cases hasks : p.1.AsksForKeys data.store
      · obtain ⟨here, here', block, next, next', hrun, hrun', hadd, hnext⟩ := h.step_asks hp hasks
        rw [hrun, hrun']
        refine (ih hrest hnext).map fun found found' hfound => ⟨?_, fun hshared => ?_⟩
        · rw [hadd.left, hadd.right, withoutRepeats_append, withoutRepeats_append, hfound.1]
        · rw [hadd.same (hshared.mono (List.subset_append_left _ _)), hfound.2 hshared]
      · -- either adds the same report
        have hasks' := mt hp.agrees.asksForKeys.mpr hasks
        rw [mismatchesFrom_cons (mt Violation.kind_eq_missingKeys_iff.mp hasks),
          mismatchesFrom_cons (mt Violation.kind_eq_missingKeys_iff.mp hasks'),
          ← hp.agrees.reports (fun h => absurd h hasks) hp.ownKeys]
        refine (Except.Rel.refl (p.1.reports s data.store)).bind ?_
        rintro here _ rfl
        have hnext : InStep s t data (before ++ [p]) (here ++ seen) reported reported' :=
          h.advance hp (h.left.skip fun h => absurd h hasks) (h.right.skip fun h => absurd h hasks')
            fun h => absurd h hasks
        refine (ih hrest hnext).bind fun found found' hfound => .ok ⟨?_, fun hshared => ?_⟩
        · rw [withoutRepeats_append, withoutRepeats_append, hfound.1]
        · rw [hfound.2 hshared]

end Runs

/-! ### Two structures -/

/-- Results that differ in nothing but missing keys that one of them repeats, and not at all where the
same requirements are shared. -/
structure DifferInRepeats (data : Store) (pairs : List (Violation × Violation))
    (found found' : List Mismatch) : Prop where
  kept : withoutRepeats [] found = withoutRepeats [] found'
  mem : ∀ m, m ∈ found ↔ m ∈ found'
  same : SharedAlike data pairs → found = found'

namespace Schema

/-- A structure that is a schema and is registered as `r`. -/
def Accepted (expected : Datum) (r : Registered) : Prop :=
  ∃ draft, draftOf expected = .ok draft ∧ firstFlaw draft expected = .ok none ∧
    registered draft expected = .ok r

theorem Accepted.mismatches {expected : Datum} {r : Registered} (h : Accepted expected r)
    (data : Datum) : YamlAudit.mismatches expected data =
      (r.verdict data).mismatches r.registry.store data.store := by
  obtain ⟨draft, hdraft, hflaw, hr⟩ := h
  exact (Except.bind_of_ok hdraft).trans ((Except.bind_of_ok hflaw).trans (Except.bind_of_ok hr))

/-- Two schemas judge a value alike: their searches end in the same way and give rise to violations
that say the same, one after the other.  Structures that are written out the same do so for all data
(`Registered.judgeAlike`). -/
structure Registered.JudgeAlike (r r' : Registered) (data : Datum) : Prop where
  fault : (r.verdict data).fault = (r'.verdict data).fault
  violations : List.Forall₂ (Violation.Agrees r.registry.store r'.registry.store)
    (r.verdict data).violations (r'.verdict data).violations

/-- The violations of two schemas, side by side. -/
def Registered.sideBySide (r r' : Registered) (data : Datum) : List (Violation × Violation) :=
  (r.verdict data).violations.zip (r'.verdict data).violations

/-- The mismatches of violations that say the same differ in nothing but repeated missing keys. -/
theorem Registered.JudgeAlike.differInRepeats {r r' : Registered} {data : Datum}
    (h : r.JudgeAlike r' data)
    (hfounded : ∀ v ∈ (r.verdict data).violations, v.AsksForKeys data.store →
      v.Founded r.registry.store data)
    (hkeys : ∀ v ∈ (r.verdict data).violations, v.ForbidsKeys data.store →
      v.HasOwnKeys data.store) :
    Except.Rel (DifferInRepeats data.store (r.sideBySide r' data))
      ((r.verdict data).mismatches r.registry.store data.store)
      ((r'.verdict data).mismatches r'.registry.store data.store) := by
  obtain ⟨hlength, hagrees⟩ := List.forall₂_iff_zip.mp h.violations
  have hpairs : ∀ p ∈ r.sideBySide r' data, Paired r.registry.store r'.registry.store data p :=
    fun p hp => ⟨hagrees hp, hfounded p.1 (List.of_mem_zip hp).1, hkeys p.1 (List.of_mem_zip hp).1⟩
  have hrun := mismatchesFrom_alike hpairs .start
  rw [sideBySide, List.map_fst_zip hlength.le, List.map_snd_zip hlength.ge] at hrun
  refine hrun.bind fun found found' hfound => ?_
  rw [← h.fault]
  cases (r.verdict data).fault with
  | some f => exact .error f
  | none =>
      refine .ok ⟨hfound.1, fun m => ?_, hfound.2⟩
      rw [← mem_withoutRepeats, hfound.1, mem_withoutRepeats]

/-- Two structures that judge a value alike have the same mismatches for it, but for missing keys that
one of them repeats: a requirement that is one in the one structure may be several in the other.  Where
the same requirements are shared, the mismatches are the same. -/
theorem Registered.mismatches_alike {r r' : Registered} {data : Datum} (h : r.JudgeAlike r' data)
    (hfounded : ∀ v ∈ (r.verdict data).violations, v.AsksForKeys data.store →
      v.Founded r.registry.store data)
    (hkeys : ∀ v ∈ (r.verdict data).violations, v.ForbidsKeys data.store →
      v.HasOwnKeys data.store) :
    Except.Rel (DifferInRepeats data.store (r.sideBySide r' data))
      ((r.verdict data).mismatches r.registry.store data.store)
      ((r'.verdict data).mismatches r'.registry.store data.store) ∧
    ∀ expected expected', Accepted expected r → Accepted expected' r' →
      Except.Rel (DifferInRepeats data.store (r.sideBySide r' data)) (mismatches expected data)
        (mismatches expected' data) := by
  have hresults := h.differInRepeats hfounded hkeys
  refine ⟨hresults, fun expected expected' hexpected hexpected' => ?_⟩
  rw [hexpected.mismatches, hexpected'.mismatches]
  exact hresults

end Schema

/-! ### Structures with branches -/

section Branches

variable {s t : Store} {schema schema' listing listing' : Nat} {branches branches' : List (Nat × Nat)}
  {name : String} {b b' : Nat × Nat}

namespace Store.Branches

theorem alike_names (h : s.Branches schema listing branches name)
    (h' : t.Branches schema' listing' branches' name) (hb : b ∈ branches) (hb' : b' ∈ branches') :
    Alike s t (.ref b.2) (.ref b'.2) :=
  .ref (by rw [h.names b hb, h'.names b' hb']; exact .list (.cons (.leaf trivial) .nil))

theorem alike_branch (h : s.Branches schema listing branches name)
    (h' : t.Branches schema' listing' branches' name) (hb : b ∈ branches) (hb' : b' ∈ branches') :
    Alike s t (.ref b.1) (.ref b'.1) := by
  refine .ref ?_
  rw [h.branch b hb, h'.branch b' hb']
  exact .mapping (.cons ⟨.leaf trivial, h.alike_names h' hb hb'⟩ .nil)

/-- Schemas with as many branches say the same, wherever these lie. -/
theorem alike (h : s.Branches schema listing branches name)
    (h' : t.Branches schema' listing' branches' name) (hlength : branches.length = branches'.length) :
    Alike s t (.ref schema) (.ref schema') := by
  have hbranches : List.Forall₂ (Alike s t) (branches.map fun b => .ref b.1)
      (branches'.map fun b => .ref b.1) := by
    refine List.forall₂_map_left_iff.mpr (List.forall₂_map_right_iff.mpr ?_)
    refine List.forall₂_iff_zip.mpr ⟨hlength, fun hmem => ?_⟩
    exact h.alike_branch h' (List.of_mem_zip hmem).1 (List.of_mem_zip hmem).2
  have hlisting : Alike s t (.ref listing) (.ref listing') :=
    .ref (by rw [h.listing, h'.listing]; exact .list hbranches)
  exact .ref (by rw [h.schema, h'.schema]; exact .mapping (.cons ⟨.leaf trivial, hlisting⟩ .nil))

end Store.Branches

variable {registry registry' : Registry} {data : Datum} {es : List (Value × Value)}

namespace Schema.Registered

theorem judgeAlike_branches (h : registry.store.Branches schema listing branches name)
    (h' : registry'.store.Branches schema' listing' branches' name)
    (hlength : branches.length = branches'.length) (hdata : data.entries? = some es)
    (hmissing : Rules.hasKey es (.text name) = false) :
    (unnamed registry schema).JudgeAlike (unnamed registry' schema') data where
  fault := by rw [verdict_branches h hdata hmissing, verdict_branches h' hdata hmissing]
  violations := by
    rw [verdict_branches h hdata hmissing, verdict_branches h' hdata hmissing]
    refine List.forall₂_map_left_iff.mpr (List.forall₂_map_right_iff.mpr ?_)
    refine List.forall₂_iff_zip.mpr ⟨hlength, fun hmem => ?_⟩
    obtain ⟨hb, hb'⟩ := List.of_mem_zip hmem
    exact ⟨rfl, rfl, rfl, rfl, h.alike_names h' hb hb', h.alike_branch h' hb hb'⟩

/-- A violated branch is one of the requirements it lists. -/
theorem founded_branches (h : registry.store.Branches schema listing branches name)
    (hdata : data.entries? = some es) (hmissing : Rules.hasKey es (.text name) = false) {v : Violation}
    (hv : v ∈ ((unnamed registry schema).verdict data).violations) :
    v.keyword = some "required" ∧ v.Founded registry.store data := by
  rw [verdict_branches h hdata hmissing] at hv
  obtain ⟨b, hb, rfl⟩ := List.mem_map.mp hv
  refine ⟨rfl, ⟨[name], Violation.requires_ofBranch (h.names b hb) hdata hmissing⟩, ?_, rfl⟩
  show Datum.member? ⟨registry.store, .ref b.1⟩ "required" = some ⟨registry.store, .ref b.2⟩
  rw [Datum.member?, Datum.entries?_of_mapping (h.branch b hb)]
  rfl

end Schema.Registered

end Branches

namespace Schema

/-- A structure that asks for `a` in two branches, which are one. -/
def sharing : Store :=
  ⟨#[.mapping [(.text "allOf", .ref 1)], .list [.ref 2, .ref 2], .mapping [(.text "required", .ref 3)],
    .list [.text "a"]]⟩

/-- The same structure with the two branches written out. -/
def writtenOut : Store :=
  ⟨#[.mapping [(.text "allOf", .ref 1)], .list [.ref 2, .ref 4], .mapping [(.text "required", .ref 3)],
    .list [.text "a"], .mapping [(.text "required", .ref 5)], .list [.text "a"]]⟩

theorem sharing_branches : sharing.Branches 0 1 [(2, 3), (2, 3)] "a" :=
  ⟨rfl, rfl, by simp [sharing, Store.get], by simp [sharing, Store.get]⟩

theorem writtenOut_branches : writtenOut.Branches 0 1 [(2, 3), (4, 5)] "a" :=
  ⟨rfl, rfl, by simp [writtenOut, Store.get], by simp [writtenOut, Store.get]⟩

theorem Registered.mismatches_alike_writtenOut :
    let data := numbering ["b"]
    ∃ r r', registered .latest ⟨sharing, .ref 0⟩ = .ok r ∧
      registered .latest ⟨writtenOut, .ref 0⟩ = .ok r' ∧
      r.JudgeAlike r' data ∧
      (∀ v ∈ (r.verdict data).violations, v.AsksForKeys data.store →
        v.Founded r.registry.store data) ∧
      (∀ v ∈ (r.verdict data).violations, v.ForbidsKeys data.store → v.HasOwnKeys data.store) ∧
      Except.Rel (DifferInRepeats data.store (r.sideBySide r' data))
        ((r.verdict data).mismatches r.registry.store data.store)
        ((r'.verdict data).mismatches r'.registry.store data.store) := by
  intro data
  obtain ⟨-, registry, hr, hbranches⟩ := sharing_branches.registered
  obtain ⟨-, registry', hr', hbranches'⟩ := writtenOut_branches.registered
  have hdata : data.entries? = some [(.text "b", .int 1)] := rfl
  have hmissing : Rules.hasKey [(Value.text "b", Value.int 1)] (.text "a") = false := by decide
  have hlength : [(2, 3), (2, 3)].length = [(2, 3), (4, 5)].length := rfl
  have halike := judgeAlike_branches hbranches hbranches'
    ((List.length_map _).trans (hlength.trans (List.length_map _).symm)) hdata hmissing
  have hrequired := fun v => founded_branches (v := v) hbranches hdata hmissing
  have hkeys : ∀ v ∈ ((unnamed registry (offset + 0)).verdict data).violations,
      v.ForbidsKeys data.store → v.HasOwnKeys data.store := by
    intro v hv hforbids
    exact absurd ((hrequired v hv).1.symm.trans hforbids.1) (by decide)
  exact ⟨_, _, hr, hr', halike, fun v hv _ => (hrequired v hv).2, hkeys,
    (Registered.mismatches_alike halike (fun v hv _ => (hrequired v hv).2) hkeys).1⟩

/-- Whether a structure asks for `a` in two branches that lie where they are said to. -/
def hasBranches (first second : Nat × Nat) (d : Datum) : Bool :=
  match d.value, d.store.get 0, d.store.get 1, d.store.get first.1, d.store.get first.2,
    d.store.get second.1, d.store.get second.2 with
  | .ref schema, .mapping [(.text word, .ref listing)], .list [.ref m, .ref n],
    .mapping [(.text asks, .ref names)], .list [.text a], .mapping [(.text asks', .ref names')],
    .list [.text a'] =>
    decide ((schema = 0 ∧ word = "allOf" ∧ listing = 1 ∧ m = first.1 ∧ n = second.1) ∧
      (asks = "required" ∧ names = first.2 ∧ a = "a") ∧
      asks' = "required" ∧ names' = second.2 ∧ a' = "a")
  | _, _, _, _, _, _, _ => false

theorem branches_of_hasBranches {first second : Nat × Nat} {s : Store} {v : Value}
    (h : hasBranches first second ⟨s, v⟩ = true) :
    v = .ref 0 ∧ s.Branches 0 1 [first, second] "a" := by
  unfold hasBranches at h
  split at h
  · next hvalue hschema hlisting hfirst hnames hsecond hnames' =>
    obtain ⟨⟨rfl, rfl, rfl, rfl, rfl⟩, ⟨rfl, rfl, rfl⟩, rfl, rfl, rfl⟩ := of_decide_eq_true h
    exact ⟨hvalue, hschema, hlisting, by simpa using ⟨hfirst, hsecond⟩,
      by simpa using ⟨hnames, hnames'⟩⟩
  · cases h

/-- A structure with an alias and the same structure with the alias written out say the same.  For a
mapping without the key that both ask for twice, the one has one mismatch and the other has two. -/
theorem exists_mismatches_ne :
    ∃ s t, readStructure "allOf:\n  - &r {required: [a]}\n  - *r\n" = .ok s ∧
      readStructure "allOf:\n  - {required: [a]}\n  - {required: [a]}\n" = .ok t ∧
      Alike s.store t.store s.value t.value ∧
      ∀ data es, data.entries? = some es → Rules.hasKey es (.text "a") = false →
        ∃ r r', registered .latest s = .ok r ∧ registered .latest t = .ok r' ∧
          r.Misses s data "a" 1 ∧ r'.Misses t data "a" 2 := by
  have hs : (readStructure "allOf:\n  - &r {required: [a]}\n  - *r\n").toOption.any
      (hasBranches (2, 3) (2, 3)) = true := by decide +kernel
  have ht : (readStructure "allOf:\n  - {required: [a]}\n  - {required: [a]}\n").toOption.any
      (hasBranches (2, 4) (3, 5)) = true := by decide +kernel
  obtain ⟨⟨s, v⟩, hs, hone⟩ := Except.exists_ok_of_any hs
  obtain ⟨⟨t, w⟩, ht, htwo⟩ := Except.exists_ok_of_any ht
  obtain ⟨rfl, hleft⟩ := branches_of_hasBranches hone
  obtain ⟨rfl, hright⟩ := branches_of_hasBranches htwo
  refine ⟨_, _, hs, ht, hleft.alike hright rfl, fun data es hdata hmissing => ?_⟩
  obtain ⟨r, hr, -, hmisses⟩ := hleft.held hdata hmissing
  obtain ⟨r', hr', -, hmisses'⟩ := hright.held hdata hmissing
  exact ⟨r, r', hr, hr', hmisses, hmisses'⟩

end Schema

end YamlAudit
