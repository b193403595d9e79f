import YamlAudit.Audit.Mismatches
import YamlAudit.Proofs.Schema.Verdicts
import YamlAudit.Proofs.Value.Operands

/-!
# Audit — what a violation rests on

A violation that asks for keys or forbids some is not reported in its own words: the keys are worked
out again from the schema and the mapping (`Violation.missingKeys`, `Violation.unknownKeys`).  A
violation is grounded when there is something for that to find: a requirement lists a key that is
missing, and what forbids keys has counted some of them as additional (`Violation.additionalKeys`).
Only the requirement that a member's schema makes for the member itself lists nothing.

* `Schema.Registered.grounded`: all violations of a search that came to its end are grounded.

Most keywords cannot give rise to such violations, whatever they say, and there is one law for all
of them (`Lenient`), which they are shown to obey one by one elsewhere.  What is left to this module
are the keywords that do ask for keys or forbid them, and the induction on how deep schemas are
applied within one another.
-/

namespace YamlAudit

namespace Violation

/-- The entries of the offending mapping. -/
def entries (v : Violation) (data : Store) : List (Value × Value) := (data.entries? v.subject).getD []

/-- A schema asks for some keys, and the offending mapping does not have all of them. -/
def ListsMissing (v : Violation) (schemas data : Store) : Prop :=
  ∃ names, Datum.parts ⟨schemas, v.rule⟩ = .ok names ∧
    (∀ name ∈ names, Datum.asKey ⟨schemas, name⟩ = .ok name ∧
      (Rules.hasKey (v.entries data) name = false → ∃ t, Datum.told ⟨schemas, name⟩ = .ok t)) ∧
    ∃ name ∈ names, Rules.hasKey (v.entries data) name = false

/-- The schema of a member asks for the member, and the offending mapping does not have it. -/
def AskedByMember (v : Violation) (schemas data : Store) : Prop :=
  ∃ words properties members key member, Datum.entries? ⟨schemas, v.schema⟩ = some words ∧
    (.text "properties", properties) ∈ words ∧ Datum.entries? ⟨schemas, properties⟩ = some members ∧
    (key, member) ∈ members ∧ Datum.member? ⟨schemas, member⟩ "required" = some ⟨schemas, v.rule⟩ ∧
    Datum.isTruthy ⟨schemas, v.rule⟩ ∧ Rules.hasKey (v.entries data) key = false

/-- The keyword of a violation, held against the offending value once more. -/
def site (v : Violation) (registry : Registry) (data : Store) : Site :=
  ⟨registry, data, false, default, v.schema, "additionalProperties", v.rule, v.subject⟩

/-- The keys of the offending mapping that the schema counts as additional. -/
def additionalKeys (v : Violation) (registry : Registry) (data : Store) :
    Except SchemaFault (List Value) :=
  (Rules.additionalMembers (v.site registry data) (v.entries data)).map fun es => es.map Prod.fst

/-- What a violation is about is there to be found again. -/
inductive Grounded (registry : Registry) (data : Store) (v : Violation) : Prop
  | plain : v.kind data = .plain → Grounded registry data v
  | listed : v.kind data = .missingKeys → v.ListsMissing registry.store data →
      Grounded registry data v
  | asked : v.kind data = .missingKeys → v.AskedByMember registry.store data →
      Grounded registry data v
  | extra {keys unknown} : v.kind data = .extraKeys → v.additionalKeys registry data = .ok keys →
      keys ≠ [] → v.unknownKeys registry.store data = .ok unknown → Grounded registry data v

variable {registry : Registry} {data : Store}

theorem kind_of_isOther {v : Violation} (h : IsOther v.keyword) : v.kind data = .plain := by
  unfold kind
  split
  · rfl
  · split
    · next hk => exact absurd hk h.1
    · next hk => exact absurd hk h.2
    · rfl

/-- What a violation rests on does not depend on where the value lies. -/
theorem Grounded.under {v : Violation} (segment : Segment) (h : v.Grounded registry data) :
    (v.under segment).Grounded registry data := by
  cases h with
  | plain hk => exact .plain hk
  | listed hk hl => exact .listed hk hl
  | asked hk ha => exact .asked hk ha
  | extra hk hkeys hne hunknown => exact .extra hk hkeys hne hunknown

theorem Grounded.lenient : Lenient (Grounded registry data) where
  under segment h := h.under segment
  other h := .plain (kind_of_isOther h)

end Violation

/-! ### Words and rules -/

namespace Draft

/-- The words for the keywords that ask for members or forbid them. -/
theorem word_of_rule? {d : Draft} {word : String} {rule : Rule}
    (h : d.rule? (.text word) = some rule) :
    (rule = .required → word = "required") ∧
    (rule = .additionalProperties → word = "additionalProperties") ∧
    (rule = .propertiesOrRequired → word = "properties") ∧
    (rule ≠ .required ∧ rule ≠ .additionalProperties → Violation.IsOther (some word)) := by
  have hall : ∀ d : Draft, ∀ p ∈ d.rules,
      (p.2 = .required → p.1 = "required") ∧
      (p.2 = .additionalProperties → p.1 = "additionalProperties") ∧
      (p.2 = .propertiesOrRequired → p.1 = "properties") ∧
      (p.2 ≠ .required ∧ p.2 ≠ .additionalProperties →
        p.1 ≠ "required" ∧ p.1 ≠ "additionalProperties") := by
    intro d
    cases d <;> decide
  have hmem : (word, rule) ∈ d.rules := by
    obtain ⟨before, after, hrules, -⟩ := List.lookup_eq_some_iff.mp h
    simp [hrules]
  obtain ⟨h₁, h₂, h₃, h₄⟩ := hall d _ hmem
  exact ⟨h₁, h₂, h₃, fun h => ⟨by simpa using (h₄ h).1, by simpa using (h₄ h).2⟩⟩

theorem rule?_patternProperties (d : Draft) :
    d.rule? (.text "patternProperties") = some .patternProperties := by
  cases d <;> rfl

/-- The words that count are all of a schema, or it is a reference. -/
theorem wordsOf_eq_ok {d : Draft} {schema : Datum} {words : List (Value × Value)}
    (h : d.wordsOf schema = .ok words) :
    schema.entries? = some words ∨ ∀ p ∈ words, p.1 = .text "$ref" := by
  unfold wordsOf at h
  split at h
  · obtain ⟨x, -, h⟩ := Except.bind_eq_ok.mp h
    cases x with
    | none => exact .inl (Datum.entries_eq_ok.mp h)
    | some target =>
        cases h
        exact .inr fun p hp => by rw [List.mem_singleton.mp hp]
  · exact .inl (Datum.entries_eq_ok.mp h)

end Draft

/-! ### The keywords that ask for members or forbid them -/

namespace Rules

variable {registry : Registry} {data : Store} {a : Applier} {s : Site}

/-- What names ask of a mapping, when all that is missing can be told. -/
theorem eachName_fault {es : List (Value × Value)} {names : List Value}
    {message : Datum → Except SchemaFault String}
    (h : (eachName s es names message).fault = none) {name : Value} (hname : name ∈ names) :
    (s.ruleDatum name).asKey = .ok name ∧
      (hasKey es name = false → ∃ m, message (s.ruleDatum name) = .ok m) := by
  obtain ⟨key, hkey, hdemand⟩ := Verdict.onOk_fault.mp (Verdict.each_fault.mp h name hname)
  obtain rfl : key = name := Datum.asKey_eq_ok hkey
  refine ⟨hkey, fun hmissing => ?_⟩
  rw [Site.demand, hmissing] at hdemand
  obtain ⟨m, hm, -⟩ := Verdict.onOk_fault.mp hdemand
  exact ⟨m, hm⟩

theorem mem_eachName {es : List (Value × Value)} {names : List Value}
    {message : Datum → Except SchemaFault String}
    (h : (eachName s es names message).fault = none) {x : Violation}
    (hx : x ∈ (eachName s es names message).violations) :
    (∃ m, x = ⟨m, [], some s.word, s.rule, s.subject, s.schema⟩) ∧
      ∃ name ∈ names, hasKey es name = false := by
  obtain ⟨name, hname, hx⟩ := (Verdict.mem_each h).mp hx
  obtain ⟨hkey, -⟩ := eachName_fault h hname
  rw [hkey] at hx
  simp only [Verdict.onOk, Site.demand] at hx
  cases hmissing : hasKey es name with
  | true => rw [hmissing] at hx; cases hx
  | false =>
      rw [hmissing] at hx
      refine ⟨?_, name, hname, hmissing⟩
      unfold Site.violation Site.violationOf at hx
      cases hm : message (s.ruleDatum name) with
      | error f => simp [hm, Verdict.onOk, Verdict.stop] at hx
      | ok m =>
          simp only [Bool.false_eq_true, if_false, hm, Verdict.onOk] at hx
          exact ⟨m, List.mem_singleton.mp hx⟩

theorem required_shows (hregistry : s.registry = registry) (hdata : s.data = data)
    (hword : s.word = "required") :
    (required s).Shows (Violation.Grounded registry data) := by
  subst hregistry hdata
  unfold required
  split
  · exact .clean
  · next es hes =>
    refine .onOk fun names hnames hfault x hx => ?_
    obtain ⟨⟨m, rfl⟩, hmissing⟩ := mem_eachName hfault hx
    have hentries : s.data.entries? s.subject = some es := hes
    refine .listed (by simp [Violation.kind, hentries, hword]) ⟨names, hnames, ?_, ?_⟩
    · intro name hname
      obtain ⟨hkey, hsaid⟩ := eachName_fault hfault hname
      refine ⟨hkey, fun hmissing => ?_⟩
      rw [Violation.entries, hentries] at hmissing
      obtain ⟨m, hm⟩ := hsaid hmissing
      obtain ⟨t, ht, -⟩ := Except.bind_eq_ok.mp hm
      exact Datum.told_of_said ht
    · rw [Violation.entries, hentries]
      exact hmissing

theorem propertiesOrRequired_shows (ha : a.Shows (Violation.Grounded registry data))
    (hregistry : s.registry = registry) (hdata : s.data = data) {words : List (Value × Value)}
    (hwords : (registry.datum s.schema).entries? = some words)
    (hrule : (.text "properties", s.rule) ∈ words) :
    (propertiesOrRequired a s).Shows (Violation.Grounded registry data) := by
  subst hregistry hdata
  unfold propertiesOrRequired
  dsimp only
  split
  · exact .clean
  · next es hes =>
    refine .onOk fun members hmembers => .each fun p hp => ?_
    have hentries : s.data.entries? s.subject = some es := hes
    split
    · exact Site.descend_shows Violation.Grounded.lenient ha
    · next hmissing =>
      refine .onOk fun wanted hwanted => ?_
      cases wanted with
      | none => exact .clean
      | some wanted =>
          dsimp only
          split
          · exact .clean
          · next htruthy =>
            rw [Bool.not_eq_true', Bool.not_eq_false] at htruthy
            refine .under (fun _ h => h.under _) (Site.violationOf_shows fun m _ => ?_)
            have hmember := Datum.under_eq_ok hwanted
            -- what is asked of the member stands in the schemas, as all that is found under a word
            -- does
            have hstore : wanted = ⟨s.registry.store, wanted.value⟩ := by
              obtain ⟨v, -, hv⟩ := Option.map_eq_some_iff.mp hmember
              rw [← hv]
              rfl
            refine .asked (by simp [Violation.kind, hentries])
              ⟨words, s.rule, members, p.1, p.2, hwords, hrule, Datum.entries_eq_ok.mp hmembers,
                hp, hmember.trans (congrArg some hstore), hstore ▸ htruthy, ?_⟩
            simp only [Violation.entries, hentries, Option.getD_some, hasKey, hmissing]
            rfl

/-! ### Additional members -/

theorem patternTexts_congr {s t : Site} (h : s.registry = t.registry) (l : List Value) (n : Nat) :
    patternTexts s n l = patternTexts t n l := by
  induction l generalizing n with
  | nil => rfl
  | cons v rest ih => cases v <;> simp [patternTexts, ih, Site.ruleDatum, h]

/-- Which members are additional only depends on the schemas and the one that forbids them. -/
theorem additionalMembers_congr {s t : Site} (h : s.registry = t.registry) (h' : s.schema = t.schema)
    (es : List (Value × Value)) : additionalMembers s es = additionalMembers t es := by
  have hbeside : ∀ word, s.beside? word = t.beside? word := by
    intro word
    rw [Site.beside?, Site.beside?, Site.ruleDatum, Site.ruleDatum, h, h']
  simp only [additionalMembers, joinedPatterns, isNamed, hbeside, patternTexts_congr h,
    Site.ruleDatum, h]

/-- Whether the schema speaks of a key neither by name nor by one of its patterns. -/
def isUnknown (s : Site) (key : Value) : Except SchemaFault Bool := do
  if ← isNamed s key then return false
  match s.beside? "patternProperties" with
  | some patterns => return !(← Violation.foundInAny s.registry.store key (← patterns.parts))
  | none => return true

theorem unknownKeys_eq (v : Violation) (registry : Registry) (data : Store) :
    v.unknownKeys registry.store data =
      ((v.entries data).map Prod.fst).filterM (isUnknown (v.site registry data)) := by
  refine congrArg (List.filterM · _) (funext fun key => ?_)
  rw [isUnknown, isNamed]
  simp only [Site.beside?, Site.ruleDatum, Registry.datum, Violation.site]
  cases Datum.member? ⟨registry.store, v.schema⟩ "properties" <;> rfl

theorem isNamed_of_additionalMembers {es extra : List (Value × Value)}
    (h : additionalMembers s es = .ok extra) : ∀ e ∈ es, ∃ b, isNamed s e.1 = .ok b := by
  obtain ⟨source, -, h⟩ := Except.bind_eq_ok.mp h
  intro e he
  obtain ⟨b, hb⟩ := Except.ok_of_filterM h e he
  obtain ⟨named, hnamed, -⟩ := Except.bind_eq_ok.mp hb
  exact ⟨named, hnamed⟩

theorem eq_nil_of_additionalMembers {extra : List (Value × Value)}
    (h : additionalMembers s [] = .ok extra) : extra = [] := by
  obtain ⟨source, -, h⟩ := Except.bind_eq_ok.mp h
  exact (Except.ok.inj h).symm

/-- Whether a pattern is found in a key can be told when all patterns are in order. -/
theorem exists_foundInAny {schemas : Store} (key : Value) {sources : List Value}
    (h : ∀ source ∈ sources, ∃ p, Site.pattern ⟨schemas, source⟩ = .ok p) :
    ∃ b, Violation.foundInAny schemas key sources = .ok b := by
  induction sources with
  | nil => exact ⟨false, rfl⟩
  | cons source rest ih =>
      obtain ⟨p, hp⟩ := h source List.mem_cons_self
      obtain ⟨b, hb⟩ := ih fun s hs => h s (List.mem_cons_of_mem _ hs)
      cases hfound : Site.foundInKey p key with
      | true => exact ⟨true, Except.bind_eq_ok.mpr ⟨p, hp, by rw [hfound]; rfl⟩⟩
      | false => exact ⟨b, Except.bind_eq_ok.mpr ⟨p, hp, by rw [hfound]; exact hb⟩⟩

/-- The patterns beside a keyword, if there are any, are those of a mapping and all in order. -/
def PatternsInOrder (s : Site) : Prop :=
  ∀ patterns, s.beside? "patternProperties" = some patterns → ∃ sources, patterns.parts = .ok sources ∧
    ∀ source ∈ sources, ∃ p, Site.pattern (s.ruleDatum source) = .ok p

/-- What the schema does not speak of can be found out when its patterns are in order. -/
theorem exists_isUnknown {key : Value} (hnamed : ∃ b, isNamed s key = .ok b)
    (hpatterns : PatternsInOrder s) : ∃ b, isUnknown s key = .ok b := by
  obtain ⟨named, hnamed⟩ := hnamed
  rw [isUnknown, hnamed]
  cases named with
  | true => exact ⟨false, rfl⟩
  | false =>
      cases hp : s.beside? "patternProperties" with
      | none => exact ⟨true, rfl⟩
      | some patterns =>
          obtain ⟨sources, hsources, hall⟩ := hpatterns patterns hp
          obtain ⟨b, hb⟩ := exists_foundInAny key hall
          refine ⟨!b, Except.bind_eq_ok.mpr ⟨false, rfl, ?_⟩⟩
          exact Except.bind_eq_ok.mpr ⟨sources, hsources, Except.bind_eq_ok.mpr ⟨b, hb, rfl⟩⟩

theorem additionalProperties_shows (ha : a.Shows (Violation.Grounded registry data))
    (hregistry : s.registry = registry) (hdata : s.data = data)
    (hword : s.word = "additionalProperties")
    (hpatterns : (∃ e es, s.entries? = some (e :: es)) → PatternsInOrder s) :
    (additionalProperties a s).Shows (Violation.Grounded registry data) := by
  subst hregistry hdata
  unfold additionalProperties
  split
  · exact .clean
  · next es hes =>
    refine .onOk fun extra hextra => ?_
    have hentries : s.data.entries? s.subject = some es := hes
    -- what the keyword finds itself, whatever it says
    have hown : extra ≠ [] → ∀ m, Violation.Grounded s.registry s.data
        ⟨m, [], some s.word, s.rule, s.subject, s.schema⟩ := by
      intro hne m
      let v : Violation := ⟨m, [], some s.word, s.rule, s.subject, s.schema⟩
      have ventries : v.entries s.data = es := by
        rw [Violation.entries, hentries, Option.getD_some]
      have hmembers : additionalMembers (v.site s.registry s.data) es = .ok extra :=
        (additionalMembers_congr (s := v.site s.registry s.data) (t := s) rfl rfl es).trans hextra
      have hkeys : v.additionalKeys s.registry s.data = .ok (extra.map Prod.fst) := by
        rw [Violation.additionalKeys, ventries, hmembers]
        rfl
      have hsome : ∃ e es, s.entries? = some (e :: es) := by
        cases es with
        | nil => exact absurd (eq_nil_of_additionalMembers hextra) hne
        | cons e rest => exact ⟨e, rest, hes⟩
      obtain ⟨unknown, hunknown⟩ : ∃ keys, v.unknownKeys s.registry.store s.data = .ok keys := by
        rw [unknownKeys_eq, ventries]
        refine Except.exists_filterM fun key hkey => ?_
        obtain ⟨e, he, rfl⟩ := List.mem_map.mp hkey
        exact exists_isUnknown (isNamed_of_additionalMembers hmembers e he) (hpatterns hsome)
      exact .extra (by simp [Violation.kind, hentries, hword]) hkeys (by simpa using hne) hunknown
    dsimp only
    split
    · exact .each fun _ _ => Site.descend_shows Violation.Grounded.lenient ha
    · split
      · exact .clean
      · next hne =>
        have hne : extra ≠ [] := by
          rintro rfl
          simp at hne
        split
        · exact Site.violationOf_shows fun m _ => hown hne m
        · exact Site.violationOf_shows fun m _ => hown hne m

end Rules

/-! ### Whole schemas -/

/-- Patterns that were looked for in some key are in order. -/
theorem Rules.patterns_of_fault {a : Applier} {s : Site} {e : Value × Value}
    {es : List (Value × Value)} (hes : s.entries? = some (e :: es))
    (hfault : (patternProperties a s).fault = none) : ∃ members, s.asked.entries? = some members ∧
      ∀ p ∈ members, ∃ pattern, Site.pattern (s.ruleDatum p.1) = .ok pattern := by
  rw [patternProperties, hes] at hfault
  obtain ⟨members, hmembers, heach⟩ := Verdict.onOk_fault.mp hfault
  refine ⟨members, Datum.entries_eq_ok.mp hmembers, fun p hp => ?_⟩
  obtain ⟨pattern, hpattern, -⟩ := Verdict.onOk_fault.mp (Verdict.each_fault.mp heach p hp)
  exact ⟨pattern, hpattern⟩

/-- Where all words of a schema were judged without a fault, its patterns are in order. -/
theorem Rules.patternsInOrder_of_words {a : Applier} {s : Site} {words : List (Value × Value)}
    (hwords : (s.ruleDatum s.schema).entries? = some words) (hne : ∃ e es, s.entries? = some (e :: es))
    (hfault : ∀ patterns, (.text "patternProperties", patterns) ∈ words → (patternProperties a
      { s with word := "patternProperties", rule := patterns }).fault = none) :
    PatternsInOrder s := by
  intro patterns hpatterns
  obtain ⟨rule, hrule, rfl⟩ := Option.map_eq_some_iff.mp hpatterns
  rw [hwords, Option.bind_some] at hrule
  obtain ⟨e, es, hes⟩ := hne
  obtain ⟨members, hmembers, hall⟩ := patterns_of_fault
    (s := { s with word := "patternProperties", rule := rule }) hes
    (hfault rule (mem_of_lookupKey_text hrule))
  refine ⟨_, Datum.parts_of_entries? hmembers, fun source hsource => ?_⟩
  obtain ⟨p, hp, rfl⟩ := List.mem_map.mp hsource
  exact hall p hp

/-- Whatever a schema finds is grounded. -/
theorem applySchema_grounded (registry : Registry) (data : Store) (formats : Bool) (depth : Nat) :
    (applySchema registry data formats depth).Shows (Violation.Grounded registry data) := by
  induction depth with
  | zero => exact fun _ _ _ _ => .stop _
  | succ depth ih =>
      intro scope listing schema subject
      refine .onOk fun words hwords => .each_of_faultless fun hall p hp => ?_
      obtain ⟨key, value⟩ := p
      cases key with
      | text word =>
          dsimp only
          cases hrule : scope.draft.rule? (.text word) with
          | none => exact .clean
          | some rule =>
              obtain ⟨hrequired, hadditional, hproperties, hother⟩ := Draft.word_of_rule? hrule
              -- a schema in which the word stands beside others is no reference
              have hentries : word ≠ "$ref" → (registry.datum schema).entries? = some words :=
                fun hne => (Draft.wordsOf_eq_ok hwords).resolve_right fun h =>
                  hne (Value.text.inj (h _ hp))
              dsimp only
              by_cases h₁ : rule = .required
              · subst h₁
                exact Rules.required_shows rfl rfl (hrequired rfl)
              by_cases h₂ : rule = .additionalProperties
              · subst h₂
                obtain rfl := hadditional rfl
                refine Rules.additionalProperties_shows ih rfl rfl rfl fun hne => ?_
                refine Rules.patternsInOrder_of_words
                  (a := applySchema registry data formats depth) (hentries (by decide)) hne
                  fun patterns hmem => ?_
                have hjudged := hall _ hmem
                rw [Draft.rule?_patternProperties] at hjudged
                exact hjudged
              by_cases h₃ : rule = .propertiesOrRequired
              · subst h₃
                obtain rfl := hproperties rfl
                exact Rules.propertiesOrRequired_shows ih rfl rfl (hentries (by decide)) hp
              · exact Site.judge_shows Violation.Grounded.lenient ih (hother ⟨h₁, h₂⟩) ⟨h₁, h₃, h₂⟩
      | _ => exact .clean

/-- Whatever a registered schema finds is grounded. -/
theorem Schema.Registered.grounded (r : Schema.Registered) (data : Datum) :
    (r.verdict data).Shows (Violation.Grounded r.registry data.store) := by
  unfold Schema.Registered.verdict Schema.verdict
  dsimp only
  split
  · exact .clean
  · exact Site.forbidden_shows Violation.Grounded.lenient
  · exact applySchema_grounded _ _ _ _ _ _ _ _

end YamlAudit
