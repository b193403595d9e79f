import Mathlib.Data.Finset.Card
import YamlAudit.Proofs.Schema.Unnamed

/-!
# Schema — schemas with branches

A schema may ask for one key in several branches, each of which is a schema of its own
(`Store.Branches`).  A mapping without the key violates every branch once.  But branches are told
apart by where they lie, so the key is reported once for each of the places and not once for each
branch (`Store.Branches.held`).

It is the smallest case in which it shows what is shared: the branches say the same and are violated
together, and nothing but where they lie makes a difference.
-/

namespace YamlAudit

open Schema

/-- A schema with branches: each is a schema that asks for `name` alone.  A branch is given by where
it and its list of names lie, and may be one of the others. -/
structure Store.Branches (s : Store) (schema listing : Nat) (branches : List (Nat × Nat))
    (name : String) : Prop where
  schema : s.get schema = .mapping [(.text "allOf", .ref listing)]
  listing : s.get listing = .list (branches.map fun b => .ref b.1)
  branch : ∀ b ∈ branches, s.get b.1 = .mapping [(.text "required", .ref b.2)]
  names : ∀ b ∈ branches, s.get b.2 = .list [.text name]

/-- What a mapping without the key gives rise to in a branch. -/
def Violation.ofBranch (subject : Value) (name : String) (b : Nat × Nat) : Violation :=
  ⟨quoted name ++ " is a required property", [], some "required", .ref b.2, subject, .ref b.1⟩

/-- Things that give rise to one violation each. -/
theorem Verdict.each_map {α β : Type} {judge : β → Verdict} {f : α → β} {violation : α → Violation}
    {l : List α} (h : ∀ a ∈ l, judge (f a) = ⟨[violation a], none⟩) :
    each judge (l.map f) = ⟨l.map violation, none⟩ := by
  induction l with
  | nil => rfl
  | cons a rest ih =>
      obtain ⟨ha, hrest⟩ := List.forall_mem_cons.mp h
      rw [List.map_cons, each, ha, ih hrest]
      rfl

/-- One name that is no key. -/
theorem Rules.required_single {s : Site} {es : List (Value × Value)} {name : String}
    (hentries : s.entries? = some es) (hparts : s.asked.parts = .ok [.text name])
    (hmissing : hasKey es (.text name) = false) : required s =
      ⟨[⟨quoted name ++ " is a required property", [], some s.word, s.rule, s.subject, s.schema⟩],
        none⟩ := by
  rw [required, hentries]
  dsimp only
  rw [hparts]
  show (Verdict.onOk (s.ruleDatum (.text name)).asKey fun key => s.demand (hasKey es key) fun _ => do
    return (← (s.ruleDatum key).said) ++ " is a required property").andThen (fun _ => .clean) = _
  have hkey : (s.ruleDatum (.text name)).asKey = .ok (.text name) := rfl
  have hsaid : (s.ruleDatum (.text name)).said = .ok (quoted name) := rfl
  rw [Verdict.andThen_clean, hkey]
  simp only [Verdict.onOk, Site.demand, hmissing, hsaid]
  rfl

namespace Store.Branches

variable {s : Store} {schema listing : Nat} {branches : List (Nat × Nat)} {name : String}

theorem registered (h : s.Branches schema listing branches name) :
    draftOf ⟨s, .ref schema⟩ = .ok .latest ∧
    ∃ registry : Registry, Schema.registered .latest ⟨s, .ref schema⟩ =
        .ok (.unnamed registry (offset + schema)) ∧
      registry.store.Branches (offset + schema) (offset + listing)
        (branches.map fun b => (offset + b.1, offset + b.2)) name := by
  have hunnamed : Datum.Unnamed ⟨s, .ref schema⟩ :=
    ⟨_, Datum.entries?_of_mapping h.schema, by simp⟩
  obtain ⟨hdraft, registry, hregistered, hget⟩ := hunnamed.registered
  refine ⟨hdraft, registry, hregistered, by rw [hget, h.schema]; rfl, ?_, ?_, ?_⟩
  · have hshift : ∀ l : List (Nat × Nat), Registry.shiftedAll offset (l.map fun b => .ref b.1) =
        l.map fun b => .ref (offset + b.1) := by
      intro l
      induction l with
      | nil => rfl
      | cons b rest ih => rw [List.map_cons, Registry.shiftedAll, ih]; rfl
    rw [hget, h.listing, List.map_map]
    exact congrArg Container.list (hshift branches)
  · simp only [List.forall_mem_map]
    exact fun b hb => by rw [hget, h.branch b hb]; rfl
  · simp only [List.forall_mem_map]
    exact fun b hb => by rw [hget, h.names b hb]; rfl

end Store.Branches

/-! ### The verdict -/

namespace Schema.Registered

variable {registry : Registry} {schema listing : Nat} {branches : List (Nat × Nat)} {name : String}
  {data : Datum} {es : List (Value × Value)}

/-- Each branch is violated. -/
theorem verdict_branches (h : registry.store.Branches schema listing branches name)
    (hdata : data.entries? = some es) (hmissing : Rules.hasKey es (.text name) = false) :
    (Registered.unnamed registry schema).verdict data =
      ⟨branches.map (Violation.ofBranch data.value name), none⟩ := by
  let r := Registered.unnamed registry schema
  have hallOf : r.verdict data =
      Rules.allOf (r.applier data) (r.site data "allOf" (.ref listing)) := by
    have hverdict : r.verdict data =
        applySchema registry data.store false (Schema.depth - 1 + 1) ⟨.latest, "", [], false⟩ .latest
          (.ref schema) data.value := rfl
    rw [hverdict, applySchema_words h.schema]
    exact Verdict.andThen_clean _
  have hparts : (r.site data "allOf" (.ref listing)).asked.parts =
      .ok (branches.map fun b => .ref b.1) := Datum.parts_of_list h.listing
  have hbranch : ∀ b ∈ branches, (r.site data "allOf" (.ref listing)).descend (r.applier data)
      (.ref b.1) data.value none = ⟨[Violation.ofBranch data.value name b], none⟩ := by
    intro b hb
    have hunnamed : Datum.Unnamed ⟨registry.store, .ref b.1⟩ :=
      ⟨_, Datum.entries?_of_mapping (h.branch b hb), by simp⟩
    have hnames : Datum.parts ⟨registry.store, .ref b.2⟩ = .ok [.text name] :=
      Datum.parts_of_list (h.names b hb)
    rw [Site.descend_unnamed (s := r.site data "allOf" (.ref listing)) hunnamed rfl]
    show applySchema registry data.store false (Schema.depth - 2 + 1) ⟨.latest, "", [], false⟩ .latest
      (.ref b.1) data.value = _
    rw [applySchema_words (h.branch b hb)]
    refine (Verdict.andThen_clean _).trans (Rules.required_single hdata hnames hmissing)
  rw [hallOf, Rules.allOf, hparts]
  exact Verdict.each_map hbranch

end Schema.Registered

/-! ### The mismatches -/

section Mismatches

variable {schemas : Store} {branches : List (Nat × Nat)} {name : String} {data : Datum}
  {es : List (Value × Value)}

theorem Violation.requires_ofBranch {b : Nat × Nat} (hb : schemas.get b.2 = .list [.text name])
    (hdata : data.entries? = some es) (hmissing : Rules.hasKey es (.text name) = false) :
    (ofBranch data.value name b).Requires schemas data.store [name] where
  schema := ⟨b.1, rfl⟩
  parts := Datum.parts_of_list hb
  nodup := List.nodup_singleton _
  absent := by
    have hentries : (ofBranch data.value name b).entries data.store = es :=
      congrArg (Option.getD · []) hdata
    refine ⟨name, List.mem_singleton_self _, fun hmem => ?_⟩
    rw [hentries, ← hasKey_text_iff, hmissing] at hmem
    cases hmem

/-- The key is reported for each place that has not been reported. -/
theorem mismatchesFrom_branches (hnames : ∀ b ∈ branches, schemas.get b.2 = .list [.text name])
    (hdata : data.entries? = some es) (hmissing : Rules.hasKey es (.text name) = false)
    {reported : List Requirement} {done : Finset Nat}
    (hreported : ∀ n, reported.any (Requirement.same ⟨[], .ref n⟩) = decide (n ∈ done)) :
    mismatchesFrom schemas data.store reported (branches.map (.ofBranch data.value name)) =
      .ok (List.replicate ((branches.map Prod.fst).toFinset \ done).card
        ⟨"missing key '" ++ name ++ "'", [], .valueEnd⟩) := by
  -- by induction on the branches, with the set of places that have been reported general
  induction branches generalizing reported done with
  | nil =>
      rw [List.map_nil, List.map_nil, List.toFinset_nil, Finset.empty_sdiff]
      rfl
  | cons b rest ih =>
      obtain ⟨hb, hrest⟩ := List.forall_mem_cons.mp hnames
      let v := Violation.ofBranch data.value name b
      have hentries : data.store.entries? v.subject = some es := hdata
      have hkind : v.kind data.store = .missingKeys :=
        Violation.kind_eq_missingKeys_iff.mpr ⟨rfl, by simp [hentries]⟩
      rw [List.map_cons, List.map_cons, List.toFinset_cons]
      by_cases hdone : b.1 ∈ done
      · rw [mismatchesFrom_again ⟨hkind, (hreported b.1).trans (decide_eq_true hdone)⟩,
          Finset.insert_sdiff_of_mem _ hdone]
        exact ih hrest hreported
      · have hrequires : v.Requires schemas data.store [name] :=
          Violation.requires_ofBranch hb hdata hmissing
        have hblock : v.missingKeys schemas data.store =
            .ok [⟨"missing key '" ++ name ++ "'", [], .valueEnd⟩] := by
          rw [hrequires.missingKeys, Violation.entries, hentries, Option.getD_some]
          simp only [List.filter_cons, hmissing, Bool.not_false, if_true, List.filter_nil]
          rfl
        have hnew : ¬ (v.kind data.store = .missingKeys ∧ reported.any v.requirement.same = true) :=
          fun h => hdone (of_decide_eq_true ((hreported b.1).symm.trans h.2))
        have hnext : ∀ n, (v.requirement :: reported).any (Requirement.same ⟨[], .ref n⟩) =
            decide (n ∈ insert b.1 done) := by
          intro n
          rw [List.any_cons, hreported]
          simp only [Finset.mem_insert, Bool.decide_or]
          rfl
        -- one place more is reported, and there is one less to come
        have hcard : (insert b.1 (rest.map Prod.fst).toFinset \ done).card =
            ((rest.map Prod.fst).toFinset \ insert b.1 done).card + 1 := by
          rw [Finset.insert_sdiff_of_notMem _ hdone, Finset.sdiff_insert,
            ← Finset.erase_insert_eq_erase, Finset.card_erase_add_one (Finset.mem_insert_self _ _)]
        rw [mismatchesFrom_first hnew, if_pos hkind, Violation.reports_of_missingKeys hkind, hblock,
          ih hrest hnext, hcard]
        rfl

/-- A key is missing and reported `n` times, and this is all. -/
structure Schema.Registered.Misses (r : Registered) (expected data : Datum) (name : String) (n : Nat) :
    Prop where
  found : (r.verdict data).mismatches r.registry.store data.store =
    .ok (List.replicate n ⟨"missing key '" ++ name ++ "'", [], .valueEnd⟩)
  only : firstFlaw .latest expected = .ok none → mismatches expected data =
    .ok (List.replicate n ⟨"missing key '" ++ name ++ "'", [], .valueEnd⟩)

/-- A mapping without the key, held against a structure with branches: every branch is violated, and
the key is reported once for each place where there is a branch. -/
theorem Store.Branches.held {s : Store} {schema listing : Nat}
    (h : s.Branches schema listing branches name) (hdata : data.entries? = some es)
    (hmissing : Rules.hasKey es (.text name) = false) :
    ∃ r, Schema.registered .latest ⟨s, .ref schema⟩ = .ok r ∧
      (r.verdict data).violations.length = branches.length ∧
      r.Misses ⟨s, .ref schema⟩ data name (branches.map Prod.fst).toFinset.card := by
  obtain ⟨hdraft, registry, hregistered, hbranches⟩ := h.registered
  have hverdict := Registered.verdict_branches hbranches hdata hmissing
  let moved := branches.map fun b => (offset + b.1, offset + b.2)
  let m : Mismatch := ⟨"missing key '" ++ name ++ "'", [], .valueEnd⟩
  have hmoved : (moved.map Prod.fst).toFinset =
      (branches.map Prod.fst).toFinset.image (offset + ·) := by
    ext n
    simp [moved]
  have hcard : ((moved.map Prod.fst).toFinset \ ∅).card = (branches.map Prod.fst).toFinset.card := by
    rw [Finset.sdiff_empty, hmoved, Finset.card_image_of_injective _ fun _ _ => Nat.add_left_cancel]
  have hrun : mismatchesFrom registry.store data.store [] (moved.map (.ofBranch data.value name)) =
      .ok (List.replicate ((moved.map Prod.fst).toFinset \ ∅).card m) :=
    mismatchesFrom_branches hbranches.names hdata hmissing (by simp)
  let r := Registered.unnamed registry (offset + schema)
  have hfound : (r.verdict data).mismatches r.registry.store data.store =
      .ok (List.replicate (branches.map Prod.fst).toFinset.card m) := by
    rw [hverdict, ← hcard]
    exact Except.bind_eq_ok.mpr ⟨_, hrun, rfl⟩
  refine ⟨r, hregistered, by rw [hverdict, List.length_map, List.length_map], hfound, fun hflaw => ?_⟩
  exact Except.bind_eq_ok.mpr ⟨_, hdraft, Except.bind_eq_ok.mpr ⟨none, hflaw, Except.bind_eq_ok.mpr
    ⟨_, hregistered, hfound⟩⟩⟩

end Mismatches

end YamlAudit
