import Mathlib.Algebra.GroupWithZero.Nat
import Mathlib.Data.List.Forall2
import YamlAudit.Value.Plain

/-!
# Value — counting what lies in a value

The values of a datum are counted as often as they are referred to, but inside itself a container is
not entered again (`Visit.Counts`).  What lies inside a container is up to the count: `Store.inside`
looks into lists and mappings, `Store.within` into sets and pairs as well.

* `Visit.Counts.unique`: there is at most one count.
* `tallies_iff`: a budget suffices exactly if the counts of all that waits are within it.
* `Visit.Counts.congr`: two counts agree where they look into the same containers.

Which containers have been entered is kept for the way to a value and not for the whole of it.  That
is why a shared value counts once for each reference, and why the count of a value that has itself
inside is finite all the same.
-/

namespace YamlAudit

/-- The value of an entry of a list of pairs. -/
def Value.pairValue? : Value → Option Value
  | .tuple [_, v] => some v
  | _ => none

/-- The values directly inside a value: the items of a list and the values of the pairs among them,
the values of a mapping, the members of a set. -/
def Store.within (s : Store) : Value → List Value
  | .ref n => match s.get n with
    | .list items => items ++ items.filterMap Value.pairValue?
    | .mapping es | .ordered es => es.map Prod.snd
    | .set items => items
  | _ => []

namespace Visit

/-- The visits of what lies inside a value; inside itself a container is not entered. -/
def inner (inside : Value → List Value) (v : Visit) : List Visit :=
  match v.value with
  | .ref n =>
    if v.around.contains n then []
    else (inside v.value).map fun w => ⟨w, n :: v.around⟩
  | _ => []

/-- How many visits a visit comes to: its own, and those of what lies inside. -/
inductive Counts (inside : Value → List Value) : Visit → Nat → Prop
  | mk {v : Visit} {ws : List Nat} :
      List.Forall₂ (Counts inside) (v.inner inside) ws → Counts inside v (ws.sum + 1)

end Visit

/-- Whether no more than `budget` visits come of those waiting, whatever lies inside a value. -/
def tallies (inside : Value → List Value) : Nat → List Visit → Bool
  | _, [] => true
  | 0, _ :: _ => false
  | budget + 1, v :: waiting => tallies inside budget (v.inner inside ++ waiting)

/-- A datum has so many values. -/
def Datum.Counts (inside : Store → Value → List Value) (d : Datum) (w : Nat) : Prop :=
  Visit.Counts (inside d.store) ⟨d.value, []⟩ w

variable {inside inside' : Value → List Value} {v : Visit} {w w' : Nat}

namespace Visit.Counts

/-- Induction on a count: what is shown of the visits of what lies inside holds of the visit. -/
theorem induction {P : Visit → Nat → Prop}
    (step : ∀ v ws, List.Forall₂ (fun u w => Counts inside u w ∧ P u w) (v.inner inside) ws →
      P v (ws.sum + 1)) {v : Visit} {w : Nat} (h : Counts inside v w) : P v w :=
  @Counts.rec inside (fun v w _ => P v w)
    (fun vs ws _ => List.Forall₂ (fun u w => Counts inside u w ∧ P u w) vs ws)
    (fun _ ih => step _ _ ih) .nil (fun h _ ih ihrest => .cons ⟨h, ih⟩ ihrest) v w h

/-- What has nothing inside counts as one value. -/
theorem one (h : v.inner inside = []) : Counts inside v 1 := by
  have hnil : List.Forall₂ (Counts inside) (v.inner inside) [] := h ▸ .nil
  exact .mk hnil

theorem pos (h : Counts inside v w) : 0 < w := by
  obtain ⟨h⟩ := h
  exact Nat.succ_pos _

/-- A value has one count. -/
theorem unique (h : Counts inside v w) (h' : Counts inside v w') : w = w' := by
  refine induction (P := fun v w => ∀ w', Counts inside v w' → w = w') ?_ h w' h'
  rintro v ws hws _ ⟨hws'⟩
  generalize v.inner inside = us at hws hws'
  rename_i ws'
  suffices ws = ws' by rw [this]
  induction hws generalizing ws' with
  | nil => cases hws'; rfl
  | cons h _ ih =>
      obtain _ | ⟨h', hrest⟩ := hws'
      rw [h.2 _ h', ih hrest]

theorem mem_inner {u : Visit} (h : u ∈ v.inner inside) : u.value ∈ inside v.value := by
  unfold Visit.inner at h
  split at h
  · split at h
    · cases h
    · obtain ⟨w, hw, rfl⟩ := List.mem_map.mp h
      exact hw
  · cases h

/-- Counts that look into the same containers agree. -/
theorem congr {P : Value → Prop} (heq : ∀ v, P v → inside' v = inside v)
    (hin : ∀ v w, P v → w ∈ inside v → P w) (h : Counts inside v w) (hv : P v.value) :
    Counts inside' v w := by
  refine induction (P := fun v w => P v.value → Counts inside' v w) (fun v ws hws hv => ?_) h hv
  have hinner : v.inner inside' = v.inner inside := by
    rw [Visit.inner, Visit.inner, heq _ hv]
  have hP : ∀ u ∈ v.inner inside, P u.value := fun u hu => hin _ _ hv (mem_inner hu)
  refine .mk (hinner ▸ ?_)
  generalize v.inner inside = us at hws hP
  induction hws with
  | nil => exact .nil
  | cons h _ ih =>
      obtain ⟨hu, hrest⟩ := List.forall_mem_cons.mp hP
      exact .cons (h.2 hu) (ih hrest)

end Visit.Counts

/-! ### Budgets -/

theorem forall₂_append_left {α β : Type} {R : α → β → Prop} {a b : List α} {l : List β}
    (h : List.Forall₂ R (a ++ b) l) :
    ∃ l₁ l₂, List.Forall₂ R a l₁ ∧ List.Forall₂ R b l₂ ∧ l = l₁ ++ l₂ :=
  ⟨_, _, (List.forall₂_take_append _ _ _ h.flip).flip, (List.forall₂_drop_append _ _ _ h.flip).flip,
    (List.take_append_drop _ _).symm⟩

/-- A budget suffices exactly if what all the visits that wait come to is within it. -/
theorem tallies_iff {budget : Nat} {waiting : List Visit} :
    tallies inside budget waiting = true ↔
      ∃ ws, List.Forall₂ (Visit.Counts inside) waiting ws ∧ ws.sum ≤ budget := by
  induction budget generalizing waiting with
  | zero =>
      cases waiting with
      | nil => exact ⟨fun _ => ⟨[], .nil, Nat.le_refl 0⟩, fun _ => tallies.eq_1 _ _⟩
      | cons v waiting =>
          constructor
          · intro h
            cases h
          · rintro ⟨_, hws, hsum⟩
            obtain ⟨w, ws, hv, -, rfl⟩ := List.forall₂_cons_left_iff.mp hws
            -- whatever waits counts at least one
            have := hv.pos
            rw [List.sum_cons] at hsum
            omega
  | succ budget ih =>
      cases waiting with
      | nil => exact ⟨fun _ => ⟨[], .nil, Nat.zero_le _⟩, fun _ => tallies.eq_1 _ _⟩
      | cons v waiting =>
          rw [tallies, ih]
          constructor
          · -- what lies inside the first is counted in front of what waits behind it
            rintro ⟨ws, hws, hsum⟩
            obtain ⟨inner, rest, hinner, hrest, rfl⟩ := forall₂_append_left hws
            refine ⟨_, .cons (.mk hinner) hrest, ?_⟩
            rw [List.sum_append] at hsum
            rw [List.sum_cons]
            omega
          · rintro ⟨_, hws, hsum⟩
            obtain ⟨_, rest, ⟨hinner⟩, hrest, rfl⟩ := List.forall₂_cons_left_iff.mp hws
            refine ⟨_, List.rel_append hinner hrest, ?_⟩
            rw [List.sum_cons] at hsum
            rw [List.sum_append]
            omega

/-- The budget of a limit counts what lies in lists and mappings. -/
theorem fitsWithin_eq (s : Store) (budget : Nat) (waiting : List Visit) :
    fitsWithin s budget waiting = tallies s.inside budget waiting := by
  induction budget generalizing waiting with
  | zero => cases waiting <;> rfl
  | succ budget ih =>
      cases waiting with
      | nil => rfl
      | cons v waiting => exact ih _

/-- A single value is within a budget exactly if its count is. -/
theorem tallies_singleton_iff {budget : Nat} :
    tallies inside budget [v] = true ↔ ∃ w, Visit.Counts inside v w ∧ w ≤ budget := by
  rw [tallies_iff]
  constructor
  · rintro ⟨_, hws, hsum⟩
    obtain ⟨w, _, hw, hnil, rfl⟩ := List.forall₂_cons_left_iff.mp hws
    obtain rfl := List.forall₂_nil_left_iff.mp hnil
    exact ⟨w, hw, by simpa using hsum⟩
  · rintro ⟨w, hw, hle⟩
    exact ⟨[w], .cons hw .nil, by simpa using hle⟩

/-- A value that is within one budget and not within another counts more than the other. -/
theorem exists_lt_of_tallies {few many : Nat} (hmany : tallies inside many [v] = true)
    (hfew : tallies inside few [v] = false) : ∃ w, Visit.Counts inside v w ∧ few < w := by
  obtain ⟨w, hw, -⟩ := tallies_singleton_iff.mp hmany
  refine ⟨w, hw, Nat.lt_of_not_le fun hle => ?_⟩
  rw [tallies_singleton_iff.mpr ⟨w, hw, hle⟩] at hfew
  cases hfew

end YamlAudit
