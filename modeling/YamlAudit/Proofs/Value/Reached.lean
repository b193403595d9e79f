import Mathlib.Algebra.BigOperators.Group.Finset.Basic
import Mathlib.Algebra.Order.BigOperators.Group.Finset
import YamlAudit.Value.Plain

/-!
# Value — what is reached

A value is reached from a datum by way of list items and the values of mappings (`Datum.Reaches`).
The containers that are reached can be searched for (`Store.reachedFrom`).  The search keeps a heap of
values and marks what it has entered (`Store.Search`): what a marked container refers to is marked or
waits on the heap.  Each container puts what lies inside on the heap once, so there are at most as many
steps as values that lie inside some container, and the search is given as many.

With the search it can be decided whether a datum has a copy: a key that cannot become a text keeps it
from being copied only where the mapping is reached (`Datum.hasOverlongKey`).

* `Datum.mem_reachedFrom_iff`: the search marks what is reached.
* `Datum.hasOverlongKey_iff`: a key is overlong if it is in a mapping that is reached.
-/

namespace YamlAudit

/-- The containers that are reached from some values by way of lists and mappings. -/
def Store.reachedFrom (s : Store) : Nat → List Value → Array Bool → Array Bool
  | 0, _, seen => seen
  | _, [], seen => seen
  | fuel + 1, v :: waiting, seen =>
    match v with
    | .ref n =>
      if seen.getD n true then reachedFrom s fuel waiting seen
      else reachedFrom s fuel (s.inside v ++ waiting) (seen.setIfInBounds n true)
    | _ => reachedFrom s fuel waiting seen

/-- The number of values that lie directly inside some container. -/
def Store.membership (s : Store) : Nat :=
  (List.range s.containers.size).foldl (fun sum n => sum + (s.inside (.ref n)).length) 0

/-- Whether a mapping that is reached has a key in which an integer has too many digits to become a
text. -/
def Datum.hasOverlongKey (d : Datum) : Bool :=
  let s := d.store
  let seen := s.reachedFrom (s.membership + 2) [d.value] (Array.replicate s.containers.size false)
  (List.range s.containers.size).any fun n =>
    seen.getD n false && match s.get n with
      | .mapping es | .ordered es => es.any fun e => Datum.isOverlong ⟨s, e.1⟩
      | _ => false

/-- A value that is reached from a datum. -/
inductive Datum.Reaches (d : Datum) : Value → Prop
  | root : Reaches d d.value
  | inside {v w : Value} : Reaches d v → w ∈ d.store.inside v → Reaches d w

namespace Store

variable {s : Store} {P : Value → Prop}

/-- A container that is not there reads as an empty list. -/
theorem get_of_size_le {n : Nat} (h : s.containers.size ≤ n) : s.get n = .list [] := by
  simp [get, Array.getD_eq_getD_getElem?, h]

/-- What lies inside a container lies in one that is there. -/
theorem lt_of_mem_inside {n : Nat} {w : Value} (h : w ∈ s.inside (.ref n)) :
    n < s.containers.size := by
  refine Nat.lt_of_not_le fun hle => ?_
  rw [inside, get_of_size_le hle] at h
  cases h

/-- The values of a mapping lie inside it. -/
theorem mem_inside_of_mem {n : Nat} {es : List (Value × Value)}
    (hget : s.get n = .mapping es ∨ s.get n = .ordered es) {e : Value × Value} (he : e ∈ es) :
    e.2 ∈ s.inside (.ref n) := by
  rcases hget with hget | hget <;> rw [inside, hget] <;> exact List.mem_map_of_mem he

/-- A container is marked. -/
def Marked (seen : Array Bool) (n : Nat) : Prop := seen[n]? = some true

/-- The containers that are not marked. -/
def unmarked (s : Store) (seen : Array Bool) : Finset Nat :=
  (Finset.range s.containers.size).filter fun n => seen.getD n true = false

/-- How many values the containers that are not marked will still put on the heap. -/
def toCome (s : Store) (seen : Array Bool) : Nat :=
  ∑ n ∈ s.unmarked seen, (s.inside (.ref n)).length

/-- A search between two steps: `waiting` are the values on the heap, and `P` holds of all that the
search comes to. -/
structure Search (s : Store) (P : Value → Prop) (waiting : List Value) (seen : Array Bool) :
    Prop where
  size_eq : seen.size = s.containers.size
  waits : ∀ v ∈ waiting, P v
  holds : ∀ n, Marked seen n → P (.ref n)
  closed : ∀ n, Marked seen n → ∀ m, .ref m ∈ s.inside (.ref n) → m < s.containers.size →
    Marked seen m ∨ .ref m ∈ waiting

theorem marked_set {seen : Array Bool} {n m : Nat} (hn : n < seen.size) :
    Marked (seen.setIfInBounds n true) m ↔ m = n ∨ Marked seen m := by
  rw [Marked, Marked, Array.getElem?_setIfInBounds]
  split
  · next h => simp [h, h ▸ hn]
  · next h => simp [Ne.symm h]

theorem toCome_set {seen : Array Bool} {n : Nat} (hn : n ∈ s.unmarked seen) :
    s.toCome (seen.setIfInBounds n true) + (s.inside (.ref n)).length = s.toCome seen := by
  have hset : s.unmarked (seen.setIfInBounds n true) = (s.unmarked seen).erase n := by
    ext m
    simp only [unmarked, Finset.mem_filter, Finset.mem_erase, Array.getD_eq_getD_getElem?,
      Array.getElem?_setIfInBounds]
    split
    · next h => subst h; split <;> simp
    · next h => simp [Ne.symm h]
  rw [toCome, hset, toCome, Finset.sum_erase_add _ _ hn]

namespace Search

variable {v : Value} {waiting : List Value} {seen : Array Bool}

/-- What needs no entering is done with. -/
theorem skip (h : s.Search P (v :: waiting) seen)
    (hdone : ∀ n, v = .ref n → n < s.containers.size → Marked seen n) : s.Search P waiting seen where
  size_eq := h.size_eq
  waits := (List.forall_mem_cons.mp h.waits).2
  holds := h.holds
  closed n hn m hm hlt := by
    rcases h.closed n hn m hm hlt with hmarked | hwaits
    · exact .inl hmarked
    · rcases List.mem_cons.mp hwaits with rfl | hwaits
      · exact .inl (hdone m rfl hlt)
      · exact .inr hwaits

/-- Entering a container puts what lies inside on the heap. -/
theorem enter {n : Nat} (h : s.Search P (.ref n :: waiting) seen) (hn : n < seen.size)
    (hinside : ∀ v w, P v → w ∈ s.inside v → P w) :
    s.Search P (s.inside (.ref n) ++ waiting) (seen.setIfInBounds n true) where
  size_eq := by rw [Array.size_setIfInBounds, h.size_eq]
  waits := by
    obtain ⟨hv, hwaiting⟩ := List.forall_mem_cons.mp h.waits
    exact List.forall_mem_append.mpr ⟨fun w hw => hinside _ w hv hw, hwaiting⟩
  holds m hm := by
    rcases (marked_set hn).mp hm with rfl | hm
    · exact h.waits _ List.mem_cons_self
    · exact h.holds m hm
  closed k hk m hm hlt := by
    rw [marked_set hn]
    rcases (marked_set hn).mp hk with rfl | hk
    · exact .inr (List.mem_append_left _ hm)
    · rcases h.closed k hk m hm hlt with hmarked | hwaits
      · exact .inl (.inr hmarked)
      · rcases List.mem_cons.mp hwaits with heq | hwaits
        · cases heq
          exact .inl (.inl rfl)
        · exact .inr (List.mem_append_right _ hwaits)

/-- A search with steps for all that is still to come ends with an empty heap; what was marked stays
marked, and what waited has been marked. -/
theorem reachedFrom (hinside : ∀ v w, P v → w ∈ s.inside v → P w) {fuel : Nat}
    (h : s.Search P waiting seen) (hfuel : s.toCome seen + waiting.length < fuel) :
    s.Search P [] (s.reachedFrom fuel waiting seen) ∧
      ∀ n < s.containers.size, Marked seen n ∨ .ref n ∈ waiting →
        Marked (s.reachedFrom fuel waiting seen) n := by
  induction fuel generalizing waiting seen with
  | zero => exact absurd hfuel (Nat.not_lt_zero _)
  | succ fuel ih =>
      cases waiting with
      | nil => exact ⟨h, fun n _ hn => hn.resolve_right List.not_mem_nil⟩
      | cons v waiting =>
          rw [List.length_cons] at hfuel
          -- either there is nothing to enter, or one more container gets marked and there is less
          -- to come
          by_cases hdone : ∀ n, v = .ref n → n < s.containers.size → Marked seen n
          · have hskip : s.reachedFrom (fuel + 1) (v :: waiting) seen =
                s.reachedFrom fuel waiting seen := by
              cases v with
              | ref n =>
                  have hget : seen.getD n true = true := by
                    by_cases hn : n < s.containers.size
                    · have hmarked := hdone n rfl hn
                      rw [Marked] at hmarked
                      simp [Array.getD_eq_getD_getElem?, hmarked]
                    · simp [Array.getD_eq_getD_getElem?, h.size_eq ▸ Nat.le_of_not_lt hn]
                  rw [Store.reachedFrom, if_pos hget]
              | _ => rfl
            rw [hskip]
            obtain ⟨hend, hmarks⟩ := ih (h.skip hdone) (by omega)
            refine ⟨hend, fun n hlt hn => hmarks n hlt (hn.elim .inl fun hmem => ?_)⟩
            rcases List.mem_cons.mp hmem with heq | hmem
            · exact .inl (hdone n heq.symm hlt)
            · exact .inr hmem
          · push Not at hdone
            obtain ⟨n, rfl, hlt, hnot⟩ := hdone
            have hn : n < seen.size := by rw [h.size_eq]; exact hlt
            have hget : seen.getD n true = false := by
              rw [Marked, Array.getElem?_eq_getElem hn, Option.some.injEq, Bool.not_eq_true] at hnot
              rw [Array.getD, dif_pos hn]
              exact hnot
            have hmem : n ∈ s.unmarked seen :=
              Finset.mem_filter.mpr ⟨Finset.mem_range.mpr hlt, hget⟩
            rw [Store.reachedFrom, if_neg (by simp [hget])]
            have hcome := toCome_set hmem
            obtain ⟨hend, hmarks⟩ := ih (h.enter hn hinside)
              (by rw [List.length_append]; omega)
            refine ⟨hend, fun m hm hor => hmarks m hm ?_⟩
            rw [marked_set hn]
            rcases hor with hmarked | hwaits
            · exact .inl (.inr hmarked)
            · rcases List.mem_cons.mp hwaits with heq | hwaits
              · cases heq
                exact .inl (.inl rfl)
              · exact .inr (List.mem_append_right _ hwaits)

end Search

theorem toCome_le_membership (s : Store) (seen : Array Bool) : s.toCome seen ≤ s.membership := by
  have hmembership : s.membership =
      ∑ n ∈ Finset.range s.containers.size, (s.inside (.ref n)).length := by
    rw [membership]
    induction s.containers.size with
    | zero => rfl
    | succ size ih =>
        rw [List.range_succ, List.foldl_append, ih, Finset.sum_range_succ]
        rfl
  rw [hmembership]
  exact Finset.sum_le_sum_of_subset (Finset.filter_subset _ _)

end Store

namespace Datum

variable {d : Datum}

/-- The search marks exactly the containers that are there and are reached. -/
theorem marked_reachedFrom_iff {n : Nat} :
    Store.Marked (d.store.reachedFrom (d.store.membership + 2) [d.value]
      (Array.replicate d.store.containers.size false)) n ↔
      n < d.store.containers.size ∧ d.Reaches (.ref n) := by
  have hnone : ∀ n, ¬ Store.Marked (Array.replicate d.store.containers.size false) n := fun n h => by
    rw [Store.Marked, Array.getElem?_replicate] at h
    split at h <;> cases h
  have hstart : d.store.Search d.Reaches [d.value]
      (Array.replicate d.store.containers.size false) :=
    ⟨Array.size_replicate, fun v hv => List.mem_singleton.mp hv ▸ .root,
      fun n h => absurd h (hnone n), fun n h => absurd h (hnone n)⟩
  have hfuel := d.store.toCome_le_membership (Array.replicate d.store.containers.size false)
  obtain ⟨hend, hmarks⟩ := hstart.reachedFrom (fun _ _ => .inside)
    (show _ < d.store.membership + 2 by rw [List.length_singleton]; omega)
  refine ⟨fun h => ⟨?_, hend.holds n h⟩, fun ⟨hlt, hreaches⟩ => ?_⟩
  · obtain ⟨hn, -⟩ := Array.getElem?_eq_some_iff.mp h
    rw [← hend.size_eq]
    exact hn
  · -- what is reached is the root, or lies inside a container that is marked
    generalize hv : Value.ref n = v at hreaches
    induction hreaches generalizing n with
    | root => exact hmarks n hlt (.inr (hv ▸ List.mem_singleton_self _))
    | @inside v w hv' hw ih =>
        subst hv
        cases v with
        | ref m =>
            have hm := ih ⟨Store.lt_of_mem_inside hw, hv'⟩ (Store.lt_of_mem_inside hw) rfl
            exact (hend.closed m hm n hw hlt).resolve_right List.not_mem_nil
        | _ => cases hw

/-- An entry of a mapping that is reached. -/
def HasEntry (d : Datum) (e : Value × Value) : Prop :=
  ∃ n es, d.Reaches (.ref n) ∧ (d.store.get n = .mapping es ∨ d.store.get n = .ordered es) ∧ e ∈ es

/-- A datum has an overlong key exactly if an entry of a mapping that is reached has one. -/
theorem hasOverlongKey_iff :
    d.hasOverlongKey = true ↔ ∃ e, d.HasEntry e ∧ Datum.isOverlong ⟨d.store, e.1⟩ = true := by
  have hmarked : ∀ n, (d.store.reachedFrom (d.store.membership + 2) [d.value]
      (Array.replicate d.store.containers.size false)).getD n false = true ↔
      n < d.store.containers.size ∧ d.Reaches (.ref n) := fun n => by
    rw [← marked_reachedFrom_iff, Store.Marked, Array.getD_eq_getD_getElem?]
    cases h : (d.store.reachedFrom (d.store.membership + 2) [d.value]
      (Array.replicate d.store.containers.size false))[n]? <;> simp
  simp only [hasOverlongKey, List.any_eq_true, List.mem_range, Bool.and_eq_true, hmarked]
  constructor
  · rintro ⟨n, -, ⟨-, hreaches⟩, hany⟩
    split at hany
    · next es hget =>
      obtain ⟨e, he, hkey⟩ := List.any_eq_true.mp hany
      exact ⟨e, ⟨n, es, hreaches, .inl hget, he⟩, hkey⟩
    · next es hget =>
      obtain ⟨e, he, hkey⟩ := List.any_eq_true.mp hany
      exact ⟨e, ⟨n, es, hreaches, .inr hget, he⟩, hkey⟩
    · cases hany
  · rintro ⟨e, ⟨n, es, hreaches, hget, he⟩, hkey⟩
    have hlt := Store.lt_of_mem_inside (Store.mem_inside_of_mem hget he)
    refine ⟨n, hlt, ⟨hlt, hreaches⟩, ?_⟩
    rcases hget with hget | hget <;> rw [hget] <;> exact List.any_eq_true.mpr ⟨e, he, hkey⟩

end Datum

end YamlAudit
