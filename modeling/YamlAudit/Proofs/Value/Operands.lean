import Mathlib.Logic.Relation
import YamlAudit.Proofs.Basic
import YamlAudit.Schema.Operand

/-!
# Value — keys and operands

What is known of a value that was taken as a key, found under a text, told in a message or gone
through.

Most of it is by cases on the value: only a text is the same key as a text, only a list has items,
only a mapping has entries.  The laws say what a success tells, so that from a keyword that has gone
on one gets back to the value it was given.
-/

namespace YamlAudit

/-- Whether two values are the same truth value, the same integer or the same text. -/
def Value.sameAtom : Value → Value → Bool
  | .bool a, .bool b => a == b
  | .int a, .int b => a == b
  | .text a, .text b => a == b
  | _, _ => false

/-- What is told apart by nothing is one value. -/
theorem Value.eq_of_sameAtom {v w : Value} (h : v.sameAtom w = true) : v = w := by
  unfold sameAtom at h
  split at h
  · rw [beq_iff_eq.mp h]
  · rw [beq_iff_eq.mp h]
  · rw [beq_iff_eq.mp h]
  · cases h

/-- No key but the text itself is found under a text. -/
theorem Value.eq_text_of_sameKey {k : Value} {t : String} (h : k.sameKey (.text t) = true) :
    k = .text t := by
  cases k <;> simp_all [Value.sameKey, Value.sameKey.sameNumber, Value.ratio?]

/-- Two values are the same as keys, perhaps by way of others. -/
def SameKey : Value → Value → Prop := Relation.ReflTransGen fun a b => a.sameKey b = true

theorem SameKey.eq_text {k : Value} {t : String} (h : SameKey k (.text t)) : k = .text t := by
  induction h using Relation.ReflTransGen.head_induction_on with
  | refl => rfl
  | head hstep _ ih =>
      subst ih
      exact Value.eq_text_of_sameKey hstep

/-- After a value has been put under a key it lies under the same key. -/
theorem mem_putKey {k v : Value} {e : Value × Value} {es : List (Value × Value)}
    (h : e ∈ putKey k v es) : e ∈ es ∨ e.2 = v ∧ SameKey e.1 k := by
  induction es with
  | nil =>
      obtain rfl := List.mem_singleton.mp h
      exact .inr ⟨rfl, .refl⟩
  | cons e' rest ih =>
      obtain ⟨k', v'⟩ := e'
      rw [putKey] at h
      split at h
      · next hsame =>
        rcases List.mem_cons.mp h with rfl | h
        · exact .inr ⟨rfl, .single hsame⟩
        · exact .inl (List.mem_cons_of_mem _ h)
      · rcases List.mem_cons.mp h with rfl | h
        · exact .inl List.mem_cons_self
        · exact (ih h).imp_left (List.mem_cons_of_mem _)

/-- What is found under a text stands under that text. -/
theorem mem_of_lookupKey_text {name : String} {v : Value} {es : List (Value × Value)}
    (h : lookupKey (.text name) es = some v) : (.text name, v) ∈ es := by
  induction es with
  | nil => cases h
  | cons e rest ih =>
      obtain ⟨k, w⟩ := e
      rw [lookupKey] at h
      split at h
      · next hk =>
        cases h
        rw [Value.eq_text_of_sameKey hk]
        exact List.mem_cons_self
      · exact List.mem_cons_of_mem _ (ih h)

namespace Datum

variable {d : Datum}

/-- A key is taken as it is, if it can be one. -/
theorem asKey_eq_ok {key : Value} (h : d.asKey = .ok key) : key = d.value := by
  unfold asKey at h
  split at h
  · cases h
  · exact (Except.ok.inj h).symm

/-- What can be said can be told in a message. -/
theorem told_of_said {t : String} (h : d.said = .ok t) : ∃ t, d.told = .ok t := by
  unfold said literal? at h
  unfold told text?
  split at h
  · cases h
  · next ho =>
    rw [if_neg ho]
    exact ⟨_, rfl⟩

/-- Items are those of a list. -/
theorem items?_eq_some {items : List Value} :
    d.items? = some items ↔ ∃ n, d.value = .ref n ∧ d.store.get n = .list items := by
  obtain ⟨s, v⟩ := d
  cases v with
  | ref n =>
      cases hc : s.get n <;> simp [items?, container?, hc]
  | _ => simp [items?, container?]

/-- What has entries is a mapping, or an ordered one. -/
theorem entries?_eq_some {es : List (Value × Value)} : d.entries? = some es ↔
    ∃ n, d.value = .ref n ∧ (d.store.get n = .mapping es ∨ d.store.get n = .ordered es) := by
  obtain ⟨s, v⟩ := d
  cases v with
  | ref n =>
      cases hc : s.get n <;> simp [entries?, container?, hc]
  | _ => simp [entries?, container?]

/-- What can be gone through in a mapping are its keys. -/
theorem parts_of_entries? {es : List (Value × Value)} (h : d.entries? = some es) :
    d.parts = .ok (es.map Prod.fst) := by
  obtain ⟨s, v⟩ := d
  cases v with
  | ref n =>
      unfold entries? container? at h
      unfold parts sequence? Store.sequence? container?
      cases hc : s.get n <;> simp_all
  | _ => simp [entries?, container?] at h

theorem entries_eq_ok {es : List (Value × Value)} : d.entries = .ok es ↔ d.entries? = some es := by
  unfold entries entriesBy
  cases d.entries? <;> simp

/-- What is found under a word is the member of that name. -/
theorem under_eq_ok {word : String} {x : Option Datum} (h : d.under word = .ok x) :
    d.member? word = x := by
  unfold under entriesBy at h
  unfold member?
  cases he : d.entries? with
  | none => rw [he] at h; cases h
  | some es => rw [he] at h; exact Except.ok.inj h

end Datum

end YamlAudit
