import Mathlib.Algebra.BigOperators.Group.List.Basic
import Mathlib.Algebra.GroupWithZero.Nat
import YamlAudit.Proofs.Audit.Stages
import YamlAudit.Proofs.Value.Literal
import YamlAudit.Proofs.Value.Reached

/-!
# Audit — the limit on values and the value written out

A value written out is a tree (`Store.unfold`): a container is repeated wherever it is referred to,
and one that lies inside itself is not written out again there.  Each level adds a container to those
around it, so the tree is finite whatever refers to what.

The check on the number of values never builds the tree.  It takes visits from a heap and puts what
lies inside on the heap, until none waits or the budget is spent (`Store.Settles`).  Whichever visit
is taken next, those taken and the sizes of those that wait add up to the size of the tree.

* `Store.settles_iff`: in every order the answer is whether the sizes of all that waits are within
  the budget.
* `Loader.finish_eq_tooManyNodes_iff`: a document has too many values if its value written out has
  more than the limit.
-/

namespace YamlAudit

/-- A value written out: a value, and what lies directly inside it. -/
inductive Unfolding where
  | node (value : Value) (parts : List Unfolding)

mutual

/-- How many values there are, each counted as often as it is written. -/
def Unfolding.size : Unfolding → Nat
  | .node _ parts => sizeOfParts parts + 1

/-- How many values there are in several trees. -/
def sizeOfParts : List Unfolding → Nat
  | [] => 0
  | part :: rest => part.size + sizeOfParts rest

end

theorem sizeOfParts_eq (parts : List Unfolding) :
    sizeOfParts parts = (parts.map Unfolding.size).sum := by
  induction parts with
  | nil => rfl
  | cons part rest ih => rw [sizeOfParts, ih, List.map_cons, List.sum_cons]

/-- What is written inside a container: the items of a list and the values of a mapping.  A set is
written without what is in it. -/
def Container.parts : Container → List Value
  | .list items => items
  | .mapping entries | .ordered entries => entries.map Prod.snd
  | .set _ => []

namespace Store

variable {s : Store} {n : Nat} {around : List Nat}

/-- What is written inside a container is what the check takes to lie inside it. -/
theorem parts_get (s : Store) (n : Nat) : (s.get n).parts = s.inside (.ref n) := by
  rw [inside]
  cases s.get n <;> rfl

/-- Only a container that is there has parts. -/
theorem lt_of_mem_parts {w : Value} (h : w ∈ (s.get n).parts) : n < s.containers.size :=
  lt_of_mem_inside (s.parts_get n ▸ h)

/-- A value written out inside the containers `around`. -/
def unfold (s : Store) (around : List Nat) : Value → Unfolding
  | .ref n =>
    if hn : n ∈ around then .node (.ref n) []
    else .node (.ref n) ((s.get n).parts.attach.map fun w =>
      have := s.outside_cons_lt hn (lt_of_mem_parts w.2)
      s.unfold (n :: around) w.1)
  | v => .node v []
termination_by s.outside around

/-- Inside itself a container is not written out again. -/
theorem unfold_of_mem (hn : n ∈ around) : s.unfold around (.ref n) = .node (.ref n) [] := by
  rw [unfold, dif_pos hn]

/-- A container is written out with what lies inside. -/
theorem unfold_of_not_mem (hn : n ∉ around) :
    s.unfold around (.ref n) =
      .node (.ref n) ((s.get n).parts.map (s.unfold (n :: around))) := by
  rw [unfold, dif_neg hn]
  congr 1
  exact List.attach_map_val

end Store

/-- A datum written out. -/
def Datum.unfolding (d : Datum) : Unfolding := d.store.unfold [] d.value

variable {s : Store}

namespace Visit

/-- How many values the value of a visit has, written out where it is visited. -/
def weight (s : Store) (v : Visit) : Nat := (s.unfold v.around v.value).size

/-- A visit weighs one more than what lies inside. -/
theorem weight_eq (s : Store) (v : Visit) : v.weight s = ((v.next s).map (weight s)).sum + 1 := by
  obtain ⟨value, around⟩ := v
  cases value with
  | ref n =>
      by_cases hn : n ∈ around
      · simp [weight, next, hn, Store.unfold_of_mem, Unfolding.size, sizeOfParts]
      · rw [weight, Store.unfold_of_not_mem hn, Store.parts_get, Unfolding.size, sizeOfParts_eq]
        simp [next, hn, Function.comp_def, weight]
  | _ => simp [weight, next, Store.unfold, Unfolding.size, sizeOfParts]

end Visit

namespace Store

/-- How many values there are in all that waits. -/
def pending (s : Store) (waiting : List Visit) : Nat := (waiting.map (Visit.weight s)).sum

/-- What comes of visits that wait when as many as the budget says may be taken: the next one to be
taken may be any of them, and what lies inside may be put anywhere among those that wait. -/
inductive Settles (s : Store) : Nat → List Visit → Bool → Prop
  | done {budget : Nat} : Settles s budget [] true
  | spent {v : Visit} {waiting : List Visit} : Settles s 0 (v :: waiting) false
  | take {budget : Nat} {v : Visit} {waiting rest after : List Visit} {answer : Bool} :
      waiting.Perm (v :: rest) → after.Perm (v.next s ++ rest) → Settles s budget after answer →
      Settles s (budget + 1) waiting answer

theorem pending_perm {a b : List Visit} (h : a.Perm b) : s.pending a = s.pending b :=
  (h.map _).sum_eq

/-- Taking a visit leaves one value less. -/
theorem pending_take {v : Visit} {waiting rest after : List Visit}
    (hwaiting : waiting.Perm (v :: rest)) (hafter : after.Perm (v.next s ++ rest)) :
    s.pending waiting = s.pending after + 1 := by
  rw [pending_perm hwaiting, pending_perm hafter, pending, pending, List.map_cons, List.sum_cons,
    List.map_append, List.sum_append, v.weight_eq]
  omega

/-- Something that waits has a value. -/
theorem pending_cons_pos (v : Visit) (waiting : List Visit) : 0 < s.pending (v :: waiting) := by
  rw [pending_take (.refl _) (.refl _)]
  exact Nat.succ_pos _

/-- In every order the budget suffices exactly for the values of all that waits. -/
theorem settles_iff {budget : Nat} {waiting : List Visit} {answer : Bool} :
    s.Settles budget waiting answer ↔ answer = decide (s.pending waiting ≤ budget) := by
  constructor
  · intro h
    induction h with
    | done => exact (decide_eq_true (Nat.zero_le _)).symm
    | @spent v waiting =>
        exact (decide_eq_false (Nat.not_le_of_lt (pending_cons_pos v waiting))).symm
    | take hwaiting hafter _ ih =>
        rw [ih, pending_take hwaiting hafter]
        simp
  · rintro rfl
    induction budget generalizing waiting with
    | zero =>
        cases waiting with
        | nil => exact .done
        | cons v waiting =>
            rw [decide_eq_false (Nat.not_le_of_lt (pending_cons_pos v waiting))]
            exact .spent
    | succ budget ih =>
        cases waiting with
        | nil => exact .done
        | cons v waiting =>
            have hrest := @ih (v.next s ++ waiting)
            rw [pending_take (.refl _) (.refl _)]
            simp only [Nat.add_le_add_iff_right]
            exact .take (.refl _) (.refl _) hrest

/-- The check takes the visits in one of the orders. -/
theorem settles_fitsWithin (s : Store) (budget : Nat) (waiting : List Visit) :
    s.Settles budget waiting (fitsWithin s budget waiting) := by
  induction budget generalizing waiting with
  | zero =>
      cases waiting with
      | nil => exact .done
      | cons v waiting => exact .spent
  | succ budget ih =>
      cases waiting with
      | nil => exact .done
      | cons v waiting => exact .take (.refl _) (.refl _) (ih _)

end Store

theorem Datum.pending_start (d : Datum) :
    d.store.pending [⟨d.value, []⟩] = d.unfolding.size := by
  simp [Store.pending, Visit.weight, unfolding]

/-- A value written out has a value at least. -/
theorem Unfolding.size_pos (t : Unfolding) : 0 < t.size := by
  cases t
  exact Nat.succ_pos _

/-- A number that is no less than a positive one is within a limit exactly if the limit cut at zero
is no less. -/
theorem le_toNat_iff {size : Nat} {limit : Int} (hpos : 0 < size) :
    size ≤ limit.toNat ↔ (size : Int) ≤ limit := by
  omega

/-- A datum is within a limit exactly if its value written out has so many values at most. -/
theorem Datum.fits_eq (d : Datum) (limit : Int) :
    d.fits limit = decide ((d.unfolding.size : Int) ≤ limit) := by
  have hfits := Store.settles_iff.mp (d.store.settles_fitsWithin limit.toNat [⟨d.value, []⟩])
  rw [fits, hfits, d.pending_start]
  exact decide_eq_decide.mpr (le_toNat_iff d.unfolding.size_pos)

/-- A document is refused for the number of its values exactly if its value, written out with every
shared container repeated and none inside itself, has more values than the limit; and the count
comes to this answer in whatever order what lies inside is visited. -/
theorem Loader.finish_eq_tooManyNodes_iff (l : Loader) (text : String) (root : Option Node)
    (data : Datum) :
    (l.finish text root data = .error (.tooManyNodes l.settings.maxNodeCount) ↔
      l.settings.maxNodeCount < data.unfolding.size) ∧
    ∀ answer, data.store.Settles l.settings.maxNodeCount.toNat [⟨data.value, []⟩] answer ↔
      answer = decide ((data.unfolding.size : Int) ≤ l.settings.maxNodeCount) := by
  refine ⟨?_, fun answer => ?_⟩
  · rw [finish_eq_tooMany_iff, data.fits_eq, decide_eq_false_iff_not, Int.not_le]
  · rw [Store.settles_iff, data.pending_start]
    simp only [le_toNat_iff data.unfolding.size_pos]

end YamlAudit
