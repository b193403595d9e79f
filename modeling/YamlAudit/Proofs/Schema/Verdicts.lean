import YamlAudit.Proofs.Basic
import YamlAudit.Schema.Apply

/-!
# Schema — what the violations of a verdict have in common

`Verdict.Shows P v` says that every violation of a search that came to its end has the property `P`.
Of a search that was cut off nothing is said: a keyword may have left a check undone that the property
rests on, as that of its patterns.  `Shows` is kept by all the ways in which verdicts are put together,
so it holds of the verdict of a keyword as soon as it holds of the violations that the keyword itself
finds and of those found by the schemas it applies.

A property is *lenient* when every violation has it that asks for no keys and forbids none, and when
it does not depend on where the value lies.  For such a property only three keywords have something
to show: the two that ask for members, and the one that forbids those that no other keyword speaks of.

There is one lemma for each keyword, and it follows the keyword's definition.  Those in the first
section find violations of their own only; the schemas that they apply are asked whether they accept
the value, and what these find does not show.  Those in the second hand on what the schemas find that
they apply, to the value itself or further down.  A few do both.

* `Site.judge_shows`: the verdict of a keyword other than those three shows a lenient property if the
  verdicts of the schemas it applies do.
-/

namespace YamlAudit

namespace Verdict

/-- Every violation of a search that came to its end has a property. -/
def Shows (P : Violation → Prop) (v : Verdict) : Prop := v.fault = none → ∀ x ∈ v.violations, P x

/-- Two searches in turn come to their end if each of them does. -/
theorem andThen_fault {a : Verdict} {b : Unit → Verdict} :
    (a.andThen b).fault = none ↔ a.fault = none ∧ (b ()).fault = none := by
  unfold andThen
  cases h : a.fault with
  | none => simp
  | some f => simp [h]

/-- Then the violations of the second follow those of the first. -/
theorem andThen_violations {a : Verdict} {b : Unit → Verdict} (h : a.fault = none) :
    (a.andThen b).violations = a.violations ++ (b ()).violations := by
  unfold andThen
  rw [h]

/-- A search that needs something comes to its end if it is there and the search from there does. -/
theorem onOk_fault {α : Type} {a : Except SchemaFault α} {judge : α → Verdict} :
    (onOk a judge).fault = none ↔ ∃ x, a = .ok x ∧ (judge x).fault = none := by
  cases a with
  | ok x => simp [onOk]
  | error f => simp [onOk, stop]

section Each

variable {α : Type} {judge : α → Verdict} {l : List α}

/-- Searches in turn come to their end if every one of them does. -/
theorem each_fault : (each judge l).fault = none ↔ ∀ a ∈ l, (judge a).fault = none := by
  induction l with
  | nil => simp [each, clean]
  | cons a rest ih => simp [each, andThen_fault, ih]

/-- Then what they find is what any of them finds. -/
theorem mem_each (h : (each judge l).fault = none) {x : Violation} :
    x ∈ (each judge l).violations ↔ ∃ a ∈ l, x ∈ (judge a).violations := by
  induction l with
  | nil => simp [each, clean]
  | cons a rest ih =>
      obtain ⟨ha, hrest⟩ := andThen_fault.mp h
      simp [each, andThen_violations ha, ih hrest]

end Each

namespace Shows

variable {P : Violation → Prop}

/-- Where nothing is found there is nothing to show. -/
theorem clean : Shows P clean := fun _ _ h => nomatch h

/-- Nor is there where the search is cut off, since only searches that came to their end count. -/
theorem stop (f : SchemaFault) : Shows P (stop f) := fun h => nomatch h

/-- Each verdict may be looked at knowing that none of them has a fault. -/
theorem each_of_faultless {α : Type} {judge : α → Verdict} {l : List α}
    (h : (∀ a ∈ l, (judge a).fault = none) → ∀ a ∈ l, Shows P (judge a)) :
    Shows P (each judge l) := by
  intro hfault x hx
  have hall := each_fault.mp hfault
  obtain ⟨a, ha, hx⟩ := (mem_each hfault).mp hx
  exact h hall a ha (hall a ha) x hx

/-- Searches in turn show what each of them shows. -/
theorem each {α : Type} {judge : α → Verdict} {l : List α} (h : ∀ a ∈ l, Shows P (judge a)) :
    Shows P (each judge l) := each_of_faultless fun _ => h

/-- What is needed may be taken to be there. -/
theorem onOk {α : Type} {a : Except SchemaFault α} {judge : α → Verdict}
    (h : ∀ x, a = .ok x → Shows P (judge x)) : Shows P (onOk a judge) := by
  cases a with
  | ok x => exact h x rfl
  | error f => exact stop f

theorem ite {c : Prop} [Decidable c] {v w : Verdict} (hv : Shows P v) (hw : Shows P w) :
    Shows P (if c then v else w) := by
  split
  · exact hv
  · exact hw

/-- A property that does not depend on the place is kept further down. -/
theorem under {v : Verdict} {segment : Segment} (hP : ∀ x, P x → P (x.under segment))
    (h : Shows P v) : Shows P (v.under segment) := by
  intro hfault x hx
  obtain ⟨y, hy, rfl⟩ := List.mem_map.mp hx
  exact hP y (h hfault y hy)

end Shows

end Verdict

/-- Every violation that a schema finds when it is applied has a property. -/
def Applier.Shows (a : Applier) (P : Violation → Prop) : Prop :=
  ∀ scope listing schema subject, (a scope listing schema subject).Shows P

namespace Violation

/-- A keyword that neither asks for keys nor forbids any. -/
def IsOther (keyword : Option String) : Prop :=
  keyword ≠ some "required" ∧ keyword ≠ some "additionalProperties"

/-- A property that does not depend on where a value lies, and that every violation has which neither
asks for keys nor forbids any. -/
structure Lenient (P : Violation → Prop) : Prop where
  under : ∀ {v : Violation} segment, P v → P (v.under segment)
  other : ∀ {v : Violation}, IsOther v.keyword → P v

end Violation

open Violation (Lenient IsOther)

namespace Site

variable {P : Violation → Prop} {a : Applier} {s : Site}

/-! ### What a keyword itself finds -/

/-- A keyword finds one violation, which bears the word it was found for. -/
theorem violationOf_shows {word : String} {rule : Value} {message : Except SchemaFault String}
    (h : ∀ m, message = .ok m → P ⟨m, [], some word, rule, s.subject, s.schema⟩) :
    (s.violationOf word rule message).Shows P :=
  .onOk fun m hm _ _ hx => List.mem_singleton.mp hx ▸ h m hm

/-- A lenient property has to be shown of a violation only if its word asks for keys or forbids
some. -/
theorem other_shows (hP : Lenient P) {word : String} (hword : IsOther (some word)) {rule : Value}
    {message : Except SchemaFault String} : (s.violationOf word rule message).Shows P :=
  violationOf_shows fun _ _ => hP.other hword

/-- The same of a violation of the keyword itself. -/
theorem violation_shows (hP : Lenient P) (hword : IsOther (some s.word))
    {message : Except SchemaFault String} : (s.violation message).Shows P :=
  other_shows hP hword

/-- And of one that is there only if a condition does not hold. -/
theorem demand_shows (hP : Lenient P) (hword : IsOther (some s.word)) {holds : Bool}
    {message : Unit → Except SchemaFault String} : (s.demand holds message).Shows P :=
  .ite .clean (violation_shows hP hword)

/-- A schema that allows nothing has no word at all. -/
theorem forbidden_shows (hP : Lenient P) {subject : Value} : (s.forbidden subject).Shows P :=
  .onOk fun _ _ _ _ hx => List.mem_singleton.mp hx ▸ hP.other ⟨nofun, nofun⟩

/-! ### What the schemas find that a keyword applies -/

/-- A schema that is a boolean finds nothing or forbids; any other is applied. -/
theorem applyHere_shows (hP : Lenient P) (ha : a.Shows P) {scope : Scope} {listing : Draft}
    {schema subject : Value} : (s.applyHere a scope listing schema subject).Shows P := by
  unfold applyHere
  split
  · exact .clean
  · exact forbidden_shows hP
  · exact .onOk fun _ _ => ha _ _ _ _

/-- The same one step further down, and in the scope that the schema may open. -/
theorem descend_shows (hP : Lenient P) (ha : a.Shows P) {schema subject : Value}
    {segment : Option Segment} : (s.descend a schema subject segment).Shows P := by
  unfold descend
  split
  · exact .clean
  · exact forbidden_shows hP
  · refine .onOk fun scope _ => ?_
    cases segment with
    | none => exact applyHere_shows hP ha
    | some step => exact .under (fun _ => hP.under step) (applyHere_shows hP ha)

end Site

/-! ### Keyword by keyword -/

namespace Rules

open Site

variable {P : Violation → Prop} {a : Applier} {s : Site}

/-- A keyword that says something for each key shows what it shows for any one of them. -/
theorem perKey_shows {judge : List (Value × Value) → Value → Value → Verdict}
    (h : ∀ es key value, (judge es key value).Shows P) : (perKey s judge).Shows P := by
  unfold perKey
  split
  · exact .clean
  · exact .onOk fun _ _ => .each fun _ _ => .ite (h _ _ _) .clean

section Own

variable (hP : Lenient P) (hword : IsOther (some s.word))
include hP hword

/-- The keywords about sizes and numbers compare, and find one violation of their own at most. -/
theorem least_shows {size : Nat} {otherwise : String} : (least s size otherwise).Shows P :=
  .onOk fun _ _ => demand_shows hP hword

theorem most_shows {size : Nat} {otherwise : String} : (most s size otherwise).Shows P :=
  .onOk fun _ _ => demand_shows hP hword

/-- A limit is not looked at for anything but numbers. -/
theorem limit_shows {beyond : Relation} {relation side : String} :
    (limit s beyond relation side).Shows P :=
  .ite .clean (.onOk fun _ _ => demand_shows hP hword)

theorem minItems_shows : (minItems s).Shows P := by
  unfold minItems
  split
  · exact least_shows hP hword
  · exact .clean

theorem maxItems_shows : (maxItems s).Shows P := by
  unfold maxItems
  split
  · exact most_shows hP hword
  · exact .clean

/-- Repeated items are one violation of the list. -/
theorem uniqueItems_shows : (uniqueItems s).Shows P := by
  unfold uniqueItems
  split
  · exact demand_shows hP hword
  · exact .clean

theorem minLength_shows : (minLength s).Shows P := by
  unfold minLength
  split
  · exact least_shows hP hword
  · exact .clean

theorem maxLength_shows : (maxLength s).Shows P := by
  unfold maxLength
  split
  · exact most_shows hP hword
  · exact .clean

theorem minProperties_shows : (minProperties s).Shows P := by
  unfold minProperties
  split
  · exact least_shows hP hword
  · exact .clean

theorem maxProperties_shows : (maxProperties s).Shows P := by
  unfold maxProperties
  split
  · exact most_shows hP hword
  · exact .clean

theorem minimumOrAbove_shows : (minimumOrAbove s).Shows P :=
  .ite (limit_shows hP hword) (limit_shows hP hword)

theorem maximumOrBelow_shows : (maximumOrBelow s).Shows P :=
  .ite (limit_shows hP hword) (limit_shows hP hword)

/-- That a number is no multiple is a violation of the number. -/
theorem multipleOf_shows : (multipleOf s).Shows P :=
  .ite .clean (.onOk fun _ _ => demand_shows hP hword)

/-- A pattern may have a flaw, which ends the search. -/
theorem pattern_shows : (pattern s).Shows P := by
  unfold pattern
  split
  · exact .onOk fun _ _ => demand_shows hP hword
  · exact .clean

/-- The only format that is looked at is that of patterns, and only for schemas of schemas. -/
theorem format_shows : (format s).Shows P := by
  unfold format
  split
  · split
    · exact .clean
    · split
      · exact violation_shows hP hword
      · exact .stop _
  · exact .clean

/-- A type may be unknown, which ends the search. -/
theorem type_shows : (type s).Shows P :=
  .onOk fun _ _ => .onOk fun _ _ => demand_shows hP hword

/-- The schemas among types are only asked whether they accept the value, so nothing that they find
shows. -/
theorem typesOrSchemas_shows {schema : Datum} {types : List Value} :
    (typesOrSchemas a s schema types).Shows P :=
  .onOk fun _ _ => demand_shows hP hword

theorem typeOrSchema_shows : (typeOrSchema a s).Shows P :=
  .onOk fun _ _ => typesOrSchemas_shows hP hword

theorem const_shows : (const s).Shows P := demand_shows hP hword

theorem enum_shows : (enum s).Shows P := .onOk fun _ _ => demand_shows hP hword

/-- Each of several names that is missing is a violation under the word of the keyword. -/
theorem eachName_shows {es : List (Value × Value)} {names : List Value}
    {message : Datum → Except SchemaFault String} : (eachName s es names message).Shows P :=
  .each fun _ _ => .onOk fun _ _ => demand_shows hP hword

/-- Names that a key asks for are asked for under another word than those of a requirement. -/
theorem dependentRequired_shows : (dependentRequired s).Shows P :=
  perKey_shows fun _ _ _ => .onOk fun _ _ => eachName_shows hP hword

/-- Items are only asked whether they are accepted. -/
theorem contains_shows : (contains a s).Shows P := by
  unfold contains
  split
  · exact .clean
  · exact .onOk fun _ _ => demand_shows hP hword

/-- The violations of a count bear the words of the two keywords that bound it. -/
theorem containsCounted_shows : (containsCounted a s).Shows P := by
  unfold containsCounted
  split
  · exact .clean
  · exact .onOk fun _ _ => .onOk fun _ _ => .ite (other_shows hP ⟨by decide, by decide⟩) <|
      .onOk fun _ _ => .ite .clean <|
        .ite (violation_shows hP hword) (other_shows hP ⟨by decide, by decide⟩)

/-- Of the schemas that a value has to be valid under, one or several, only their answers count. -/
theorem anyOf_shows : (anyOf a s).Shows P :=
  .onOk fun _ _ => .onOk fun _ _ => .ite .clean (violation_shows hP hword)

theorem oneOf_shows : (oneOf a s).Shows P := by
  refine .onOk fun _ _ => .onOk fun first _ => ?_
  split
  · exact violation_shows hP hword
  · exact .onOk fun _ _ => demand_shows hP hword

theorem not_shows : (not a s).Shows P := .onOk fun _ _ => demand_shows hP hword

/-- Each type that is disallowed and fits is a violation. -/
theorem disallow_shows : (disallow a s).Shows P :=
  .onOk fun _ _ => .each fun _ _ => .onOk fun _ _ => demand_shows hP hword

/-- Items that no keyword has looked at are one violation of the list. -/
theorem unevaluatedItems_shows : (unevaluatedItems a s).Shows P := by
  unfold unevaluatedItems
  split
  · exact .clean
  · exact .onOk fun _ _ => .ite .clean (violation_shows hP hword)

/-- So are members, whether they are forbidden or not as they should be. -/
theorem unevaluatedProperties_shows : (unevaluatedProperties a s).Shows P := by
  unfold unevaluatedProperties
  split
  · exact .clean
  · refine .onOk fun _ _ => .onOk fun _ _ => ?_
    split
    · exact .clean
    · exact violation_shows hP hword
    · exact violation_shows hP hword

end Own

section Applied

variable (hP : Lenient P) (ha : a.Shows P)
include hP ha

/-- One schema for all items shows what it shows for any of them. -/
theorem itemsFrom_shows {schema : Value} {n : Nat} {items : List Value} :
    (itemsFrom a s schema n items).Shows P := .each fun _ _ => descend_shows hP ha

/-- So do schemas for the items at their places. -/
theorem itemsInTurn_shows {items : List Value} : (itemsInTurn a s items).Shows P :=
  .onOk fun _ _ => .each fun _ _ => descend_shows hP ha

theorem leadingItems_shows : (leadingItems a s).Shows P := by
  unfold leadingItems
  split
  · exact .clean
  · exact itemsInTurn_shows hP ha

/-- What a rule about items says decides which of the two it is. -/
theorem itemsByPosition_shows : (itemsByPosition a s).Shows P := by
  unfold itemsByPosition
  dsimp only
  cases s.items? with
  | none => exact .clean
  | some all => exact .ite (itemsFrom_shows hP ha) (itemsInTurn_shows hP ha)

/-- Schemas that all have to hold show what any of them shows. -/
theorem allOf_shows : (allOf a s).Shows P :=
  .onOk fun _ _ => .each fun _ _ => descend_shows hP ha

theorem extending_shows : (extending a s).Shows P :=
  .ite (descend_shows hP ha) (allOf_shows hP ha)

/-- Of a condition only the branch that is chosen shows anything. -/
theorem condition_shows : (condition a s).Shows P := by
  refine .onOk fun _ _ => ?_
  split
  · exact descend_shows hP ha
  · exact .clean

/-- A schema that a reference leads to is applied like any other. -/
theorem elsewhere_shows {found : Except SchemaFault (Value × Scope)} :
    (elsewhere a s found).Shows P := .onOk fun _ _ => applyHere_shows hP ha

/-- Members show what the schemas for their keys show. -/
theorem properties_shows : (properties a s).Shows P := by
  unfold properties
  split
  · exact .clean
  · refine .onOk fun _ _ => .each fun _ _ => ?_
    split
    · exact descend_shows hP ha
    · exact .clean

/-- So do the schemas for the patterns that are found in their keys. -/
theorem patternProperties_shows : (patternProperties a s).Shows P := by
  unfold patternProperties
  split
  · exact .clean
  · exact .onOk fun _ _ => .each fun _ _ => .ite .clean <|
      .onOk fun _ _ => .each fun _ _ => .ite (descend_shows hP ha) .clean

/-- And a schema that the keys themselves are held against. -/
theorem propertyNames_shows : (propertyNames a s).Shows P := by
  unfold propertyNames
  split
  · exact .clean
  · exact .each fun _ _ => descend_shows hP ha

theorem dependentSchemas_shows : (dependentSchemas a s).Shows P :=
  perKey_shows fun _ _ _ => descend_shows hP ha

variable (hword : IsOther (some s.word))
include hword

/-- Items beyond the leading ones are applied to, or are one violation if there may be none. -/
theorem items_shows : (items a s).Shows P := by
  unfold items
  split
  · exact .clean
  · refine .onOk fun _ _ => ?_
    dsimp only
    split
    · exact .clean
    · exact violation_shows hP hword
    · exact itemsFrom_shows hP ha

/-- The same where a rule about items has a schema for each of the leading ones. -/
theorem additionalItems_shows : (additionalItems a s).Shows P := by
  unfold additionalItems
  dsimp only
  split
  · exact .clean
  · exact .ite .clean <| .onOk fun _ _ => .ite (itemsFrom_shows hP ha) <|
      .ite (violation_shows hP hword) .clean

/-- What a key entails is names or a schema. -/
theorem dependencies_shows : (dependencies a s).Shows P := by
  refine perKey_shows fun _ _ _ => ?_
  split
  · exact eachName_shows hP hword
  · exact descend_shows hP ha

/-- In the first draft it may be a single name. -/
theorem looseDependencies_shows : (looseDependencies a s).Shows P := by
  refine perKey_shows fun _ _ _ => .ite (descend_shows hP ha) ?_
  split
  · exact eachName_shows hP hword
  · exact .onOk fun _ _ => eachName_shows hP hword

end Applied

end Rules

/-- The verdict of a keyword shows what the verdicts of the schemas it applies show, unless it is one
of the three that ask for members or forbid them. -/
theorem Site.judge_shows {P : Violation → Prop} {a : Applier} {s : Site} (hP : Lenient P)
    (ha : a.Shows P) (hword : IsOther (some s.word)) {rule : Rule}
    (hrule : rule ≠ .required ∧ rule ≠ .propertiesOrRequired ∧ rule ≠ .additionalProperties) :
    (s.judge a rule).Shows P := by
  cases rule with
  | required | propertiesOrRequired | additionalProperties => simp at hrule
  | reference | dynamicReference | recursiveReference => exact Rules.elsewhere_shows hP ha
  | additionalItems => exact Rules.additionalItems_shows hP ha hword
  | allOf => exact Rules.allOf_shows hP ha
  | anyOf => exact Rules.anyOf_shows hP hword
  | oneOf => exact Rules.oneOf_shows hP hword
  | not => exact Rules.not_shows hP hword
  | const => exact Rules.const_shows hP hword
  | contains => exact Rules.contains_shows hP hword
  | containsCounted => exact Rules.containsCounted_shows hP hword
  | dependentRequired => exact Rules.dependentRequired_shows hP hword
  | dependentSchemas => exact Rules.dependentSchemas_shows hP ha
  | dependencies => exact Rules.dependencies_shows hP ha hword
  | looseDependencies => exact Rules.looseDependencies_shows hP ha hword
  | disallow => exact Rules.disallow_shows hP hword
  | enum => exact Rules.enum_shows hP hword
  | exclusiveMaximum | exclusiveMinimum | maximum | minimum => exact Rules.limit_shows hP hword
  | «extends» => exact Rules.extending_shows hP ha
  | format => exact Rules.format_shows hP hword
  | condition => exact Rules.condition_shows hP ha
  | items => exact Rules.items_shows hP ha hword
  | itemsByPosition => exact Rules.itemsByPosition_shows hP ha
  | maxItems => exact Rules.maxItems_shows hP hword
  | maxLength => exact Rules.maxLength_shows hP hword
  | maxProperties => exact Rules.maxProperties_shows hP hword
  | maximumOrBelow => exact Rules.maximumOrBelow_shows hP hword
  | minItems => exact Rules.minItems_shows hP hword
  | minLength => exact Rules.minLength_shows hP hword
  | minProperties => exact Rules.minProperties_shows hP hword
  | minimumOrAbove => exact Rules.minimumOrAbove_shows hP hword
  | multipleOf => exact Rules.multipleOf_shows hP hword
  | pattern => exact Rules.pattern_shows hP hword
  | patternProperties => exact Rules.patternProperties_shows hP ha
  | leadingItems => exact Rules.leadingItems_shows hP ha
  | properties => exact Rules.properties_shows hP ha
  | propertyNames => exact Rules.propertyNames_shows hP ha
  | type => exact Rules.type_shows hP hword
  | typeOrSchema => exact Rules.typeOrSchema_shows hP hword
  | unevaluatedItems => exact Rules.unevaluatedItems_shows hP hword
  | unevaluatedProperties => exact Rules.unevaluatedProperties_shows hP hword
  | uniqueItems => exact Rules.uniqueItems_shows hP hword

end YamlAudit
