import Mathlib.Data.List.Induction
import Mathlib.Data.List.Nodup
import YamlAudit.Proofs.Value.Operands
import YamlAudit.Proofs.Yaml.Plan

/-!
# Value — entries under the names of their keys

Entries are put one after the other under the texts of their keys.  Each text then stands where it
first came up, with the value of the last entry whose key has that text (`foldl_putKey`), so there
are as many entries left as there are different texts (`length_renamed`).

The first of two equal names gives the place and the last one the value, as in a table that is
assigned to.  Which keys have equal texts is left open.
-/

namespace YamlAudit

variable {α : Type}

/-- An element at the end of a list is one more unless it was there before. -/
theorem eraseDups_concat [BEq α] [LawfulBEq α] (as : List α) (a : α) :
    (as ++ [a]).eraseDups = if a ∈ as then as.eraseDups else as.eraseDups ++ [a] := by
  rw [List.eraseDups_append]
  split <;> simp_all [List.removeAll, List.eraseDups_cons]

theorem nodup_eraseDups [BEq α] [LawfulBEq α] (as : List α) : as.eraseDups.Nodup := by
  induction as using List.reverseRecOn with
  | nil => exact List.nodup_nil
  | append_singleton rest a ih =>
      rw [eraseDups_concat]
      split
      · exact ih
      · next ha =>
        exact List.nodup_append_comm.mp (List.nodup_cons.mpr ⟨by simpa using ha, ih⟩)

theorem length_eraseDups_le [BEq α] [LawfulBEq α] (as : List α) :
    as.eraseDups.length ≤ as.length := by
  induction as using List.reverseRecOn with
  | nil => exact Nat.le_refl 0
  | append_singleton rest a ih =>
      rw [eraseDups_concat, List.length_append]
      split
      · exact Nat.le_add_right_of_le ih
      · rw [List.length_append]
        exact Nat.add_le_add_right ih _

/-- Nothing is erased if nothing comes twice, and only then. -/
theorem length_eraseDups_eq_iff [BEq α] [LawfulBEq α] {as : List α} :
    as.eraseDups.length = as.length ↔ as.Nodup := by
  induction as using List.reverseRecOn with
  | nil => simp
  | append_singleton rest a ih =>
      have hnodup : (rest ++ [a]).Nodup ↔ a ∉ rest ∧ rest.Nodup := by
        rw [← List.nodup_cons]
        exact List.perm_append_singleton a rest |>.nodup_iff
      rw [eraseDups_concat, List.length_append, hnodup, ← ih]
      have hle := length_eraseDups_le rest
      split
      · next ha =>
        simp only [ha, not_true_eq_false, false_and, iff_false, List.length_singleton]
        omega
      · next ha => simp [ha]

/-! ### Tables of names -/

/-- The entries for some names, each with the value it has. -/
def tableOf (names : List String) (value : String → Option Value) : List (Value × Value) :=
  names.filterMap fun name => (value name).map fun v => (.text name, v)

theorem sameKey_text (a b : String) : Value.sameKey (.text a) (.text b) = (a == b) := rfl

theorem tableOf_cons {name : String} {value : String → Option Value} {v : Value}
    (h : value name = some v) (names : List String) :
    tableOf (name :: names) value = (.text name, v) :: tableOf names value := by
  rw [tableOf, List.filterMap_cons_some (by rw [h]; rfl)]
  rfl

theorem tableOf_congr {names : List String} {value value' : String → Option Value}
    (h : ∀ name ∈ names, value name = value' name) : tableOf names value = tableOf names value' :=
  List.filterMap_congr fun name hname => by rw [h name hname]

/-- A value put under a name of a table takes the place of the one there. -/
theorem putKey_tableOf {names : List String} {value : String → Option Value} {name : String}
    (hnodup : names.Nodup) (hvalue : ∀ a ∈ names, (value a).isSome) (hmem : name ∈ names)
    (w : Value) :
    putKey (.text name) w (tableOf names value) = tableOf names (Function.update value name w) := by
  induction names with
  | nil => cases hmem
  | cons a rest ih =>
      obtain ⟨ha, hnodup⟩ := List.nodup_cons.mp hnodup
      obtain ⟨v, hv⟩ := Option.isSome_iff_exists.mp (hvalue a List.mem_cons_self)
      rw [tableOf_cons hv, putKey, sameKey_text]
      by_cases hname : a = name
      · subst hname
        rw [tableOf_cons (Function.update_self a _ value), beq_self_eq_true, if_pos rfl,
          tableOf_congr fun b hb => Function.update_of_ne (ne_of_mem_of_not_mem hb ha) _ value]
      · have hmem := (List.mem_cons.mp hmem).resolve_left (Ne.symm hname)
        rw [tableOf_cons ((Function.update_of_ne hname _ value).trans hv), beq_false_of_ne hname,
          if_neg Bool.false_ne_true, ih hnodup (List.forall_mem_cons.mp hvalue).2 hmem]

/-- A value put under a name that is in no entry of a table comes last. -/
theorem putKey_tableOf_of_not_mem {names : List String} {value : String → Option Value}
    {name : String} (hmem : name ∉ names) (w : Value) :
    putKey (.text name) w (tableOf names value) =
      tableOf (names ++ [name]) (Function.update value name w) := by
  have hlookup : lookupKey (.text name) (tableOf names value) = none := by
    refine lookupKey_eq_none.mpr fun e he => ?_
    obtain ⟨a, ha, hentry⟩ := List.mem_filterMap.mp he
    obtain ⟨v, -, rfl⟩ := Option.map_eq_some_iff.mp hentry
    exact beq_false_of_ne (ne_of_mem_of_not_mem ha hmem)
  rw [putKey_of_lookupKey w hlookup, tableOf, tableOf, List.filterMap_append]
  congr 1
  · exact tableOf_congr fun a ha =>
      (Function.update_of_ne (ne_of_mem_of_not_mem ha hmem) _ value).symm
  · simp

/-! ### Entries renamed -/

variable (name : Value → String) (image : Value → Value) (es : List (Value × Value))

/-- The names of some keys, in the order in which they first come up. -/
def namesOf : List String := (es.map fun e => name e.1).eraseDups

/-- The value of the last entry whose key has a name, as it is elsewhere. -/
def lastUnder (a : String) : Option Value :=
  (es.findRev? fun e => name e.1 == a).map fun e => image e.2

/-- Entries under the names of their keys: each name stands where it first comes up, with the value
of the last entry whose key has it. -/
def renamed : List (Value × Value) := tableOf (namesOf name es) (lastUnder name image es)

variable {name image es}

theorem lastUnder_concat (e : Value × Value) :
    lastUnder name image (es ++ [e]) =
      Function.update (lastUnder name image es) (name e.1) (some (image e.2)) := by
  funext a
  rw [lastUnder, List.findRev?_eq_find?_reverse, List.reverse_concat, List.find?_cons]
  by_cases ha : name e.1 = a
  · subst ha
    simp
  · rw [Function.update_of_ne (Ne.symm ha), lastUnder, List.findRev?_eq_find?_reverse,
      beq_false_of_ne ha]

theorem isSome_lastUnder {a : String} :
    (lastUnder name image es a).isSome ↔ a ∈ namesOf name es := by
  simp [lastUnder, namesOf, List.findRev?_eq_find?_reverse]

/-- One entry more is one more value put under a name. -/
theorem renamed_concat (e : Value × Value) :
    renamed name image (es ++ [e]) =
      putKey (.text (name e.1)) (image e.2) (renamed name image es) := by
  rw [renamed, namesOf, lastUnder_concat, List.map_append, List.map_singleton, eraseDups_concat]
  split
  · next hmem =>
    exact (putKey_tableOf (nodup_eraseDups _) (fun a ha => isSome_lastUnder.mpr ha)
      (List.mem_eraseDups.mpr hmem) _).symm
  · next hmem =>
    exact (putKey_tableOf_of_not_mem (fun h => hmem (List.mem_eraseDups.mp h)) _).symm

/-- Entries put one after the other under the names of their keys. -/
theorem foldl_putKey (name : Value → String) (image : Value → Value) (es : List (Value × Value)) :
    es.foldl (fun acc e => putKey (.text (name e.1)) (image e.2) acc) [] =
      renamed name image es := by
  induction es using List.reverseRecOn with
  | nil => rfl
  | append_singleton rest e ih => rw [List.foldl_concat, ih, renamed_concat]

/-- Only the values of the entries matter. -/
theorem renamed_congr {image' : Value → Value} (h : ∀ e ∈ es, image e.2 = image' e.2) :
    renamed name image es = renamed name image' es := by
  refine tableOf_congr fun a _ => ?_
  rw [lastUnder, lastUnder, List.findRev?_eq_find?_reverse]
  refine Option.map_congr fun e he => ?_
  exact h e (List.mem_reverse.mp (List.mem_of_find?_eq_some he))

theorem map_fst_tableOf {names : List String} {value : String → Option Value}
    (hvalue : ∀ a ∈ names, (value a).isSome) :
    (tableOf names value).map Prod.fst = names.map .text := by
  induction names with
  | nil => rfl
  | cons a rest ih =>
      obtain ⟨v, hv⟩ := Option.isSome_iff_exists.mp (hvalue a List.mem_cons_self)
      rw [tableOf_cons hv, List.map_cons, List.map_cons, ih (List.forall_mem_cons.mp hvalue).2]

/-- There is one entry for each name. -/
theorem map_fst_renamed : (renamed name image es).map Prod.fst = (namesOf name es).map .text :=
  map_fst_tableOf fun _ ha => isSome_lastUnder.mpr ha

theorem length_renamed : (renamed name image es).length = (namesOf name es).length := by
  simpa using congrArg List.length (@map_fst_renamed name image es)

theorem length_renamed_le : (renamed name image es).length ≤ es.length := by
  rw [length_renamed, ← List.length_map fun e : Value × Value => name e.1]
  exact length_eraseDups_le _

/-- No entry is lost exactly if no two keys have the same name. -/
theorem length_renamed_eq_iff : (renamed name image es).length = es.length ↔
    es.Pairwise fun a b => name a.1 ≠ name b.1 := by
  rw [length_renamed, ← List.length_map fun e : Value × Value => name e.1, namesOf,
    length_eraseDups_eq_iff, List.Nodup, List.pairwise_map]

end YamlAudit
