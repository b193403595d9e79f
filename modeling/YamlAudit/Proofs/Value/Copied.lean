import Mathlib.Data.Set.Function
import YamlAudit.Proofs.Value.Reached
import YamlAudit.Proofs.Value.Renamed

/-!
# Value — copies of what is reached

A copy is told by a function from containers to their copies (`Datum.IsCopy`): on the lists and
mappings that are reached it is injective and into new containers, and the content of each copy is
the content of the original seen through it.  Nothing else is asked of where the copies are.

* `Datum.isCopy_plain`: the copies behind the originals are such a copy.

Sets are not among the containers that are copied: the copy keeps them as they are and never looks
into them.  That no two originals have one copy is what keeps shared values shared and a value
inside itself where it is.
-/

namespace YamlAudit

/-- Whether the container that a value refers to is one of the first `size`. -/
def Value.isBelow (size : Nat) : Value → Bool
  | .ref n => n < size
  | _ => true

/-- Where a value is found in a copy: a list or mapping in the container that `copy` says, and all
else where it was. -/
def Store.image (s : Store) (copy : Nat → Nat) : Value → Value
  | .ref n => match s.get n with
    | .set _ => .ref n
    | _ => .ref (copy n)
  | v => v

namespace Store

variable {s : Store} {n : Nat}

/-- The originals stay where they are. -/
theorem get_withCopies (h : n < s.containers.size) : s.withCopies.get n = s.get n := by
  simp [withCopies, get, Array.getD_eq_getD_getElem?, Array.getElem?_append_left h]

/-- Each copy lies as far behind as there are originals. -/
theorem get_withCopies_copy (h : n < s.containers.size) :
    s.withCopies.get (s.containers.size + n) = s.plainContainer (s.get n) := by
  simp [withCopies, get, Array.getD_eq_getD_getElem?, h]

end Store

namespace Datum

/-- The lists and mappings that are reached. -/
def collections (d : Datum) : Set Nat := {n | d.Reaches (.ref n) ∧ (d.store.get n).kind ≠ .set}

/-- A key of a datum as a text. -/
def nameOf (d : Datum) (key : Value) : String := Datum.text ⟨d.store, key⟩

/-- A datum has copies of the lists and mappings of another, where `copy` says. -/
structure IsCopy (d d' : Datum) (copy : Nat → Nat) : Prop where
  kept : ∀ n < d.store.containers.size, d'.store.get n = d.store.get n
  value_eq : d'.value = d.store.image copy d.value
  new : ∀ n ∈ d.collections, d.store.containers.size ≤ copy n ∧ copy n < d'.store.containers.size
  injective : Set.InjOn copy d.collections
  list : ∀ n ∈ d.collections, ∀ items, d.store.get n = .list items →
    d'.store.get (copy n) = .list (items.map (d.store.image copy))
  mapping : ∀ n ∈ d.collections, ∀ es, d.store.get n = .mapping es ∨ d.store.get n = .ordered es →
    d'.store.get (copy n) = .mapping (renamed d.nameOf (d.store.image copy) es)

/-- All containers that are reached are there. -/
def Closed (d : Datum) : Prop := ∀ n, d.Reaches (.ref n) → n < d.store.containers.size

/-- All keys of the mappings that are reached can become texts. -/
def NamesKeys (d : Datum) : Prop := ∀ e, d.HasEntry e → Datum.isOverlong ⟨d.store, e.1⟩ = false

/-- Whether all keys can be named is decided before anything is copied. -/
theorem namesKeys_iff {d : Datum} : d.NamesKeys ↔ d.hasOverlongKey = false := by
  rw [← Bool.not_eq_true, hasOverlongKey_iff]
  simp [NamesKeys]

variable {d : Datum}

/-- All containers are there if those are that the root and what lies inside a container refer to. -/
theorem closed_of_isBelow
    (h : (d.value :: (List.range d.store.containers.size).flatMap fun m =>
      d.store.inside (.ref m)).all (Value.isBelow d.store.containers.size) = true) : d.Closed := by
  obtain ⟨hroot, hinside⟩ := List.forall_mem_cons.mp (List.all_eq_true.mp h)
  have hreached : ∀ v, d.Reaches v → v.isBelow d.store.containers.size = true := fun v hv => by
    cases hv with
    | root => exact hroot
    | @inside u _ _ hw =>
        cases u with
        | ref m =>
            exact hinside v (List.mem_flatMap.mpr
              ⟨m, List.mem_range.mpr (Store.lt_of_mem_inside hw), hw⟩)
        | _ => cases hw
  exact fun n hn => of_decide_eq_true (hreached _ hn)

/-! ### Copies of everything behind the originals -/

/-- A value that is reached is copied by moving the container it refers to. -/
theorem copyOf_eq_image (hclosed : d.Closed) {v : Value} (hv : d.Reaches v) :
    d.store.copyOf v = d.store.image (d.store.containers.size + ·) v := by
  cases v with
  | ref n =>
      have hlt := hclosed n hv
      cases hget : d.store.get n <;> simp [Store.copyOf, Store.image, hget, hlt]
  | _ => rfl

/-- Entries are renamed by the texts of their keys. -/
theorem plainEntries_eq (d : Datum) (es : List (Value × Value)) :
    d.store.plainEntries es = renamed d.nameOf d.store.copyOf es :=
  foldl_putKey d.nameOf d.store.copyOf es

/-- The copies behind the originals are copies of what is reached. -/
theorem isCopy_plain (hclosed : d.Closed) :
    d.IsCopy d.plain (d.store.containers.size + ·) where
  kept _ hn := Store.get_withCopies hn
  value_eq := copyOf_eq_image hclosed .root
  new n hn := by
    have hlt := hclosed n hn.1
    have hsize : d.plain.store.containers.size =
        d.store.containers.size + d.store.containers.size := by
      simp [plain, Store.withCopies]
    exact ⟨Nat.le_add_right _ _, by rw [hsize]; exact Nat.add_lt_add_left hlt _⟩
  injective _ _ _ _ h := Nat.add_left_cancel h
  list n hn items hget := by
    rw [plain, Store.get_withCopies_copy (hclosed n hn.1), hget, Store.plainContainer]
    refine congrArg Container.list (List.map_congr_left fun item hitem => ?_)
    exact copyOf_eq_image hclosed (hn.1.inside (by rw [Store.inside, hget]; exact hitem))
  mapping n hn es hget := by
    have hentries : d.store.plainContainer (d.store.get n) = .mapping (d.store.plainEntries es) := by
      rcases hget with hget | hget <;> rw [hget] <;> rfl
    rw [plain, Store.get_withCopies_copy (hclosed n hn.1), hentries, plainEntries_eq]
    exact congrArg Container.mapping (renamed_congr fun e he =>
      copyOf_eq_image hclosed (hn.1.inside (Store.mem_inside_of_mem hget he)))

end Datum

end YamlAudit
