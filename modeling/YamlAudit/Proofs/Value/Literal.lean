import Mathlib.Data.Finset.Card
import YamlAudit.Proofs.Value.Reached

/-!
# Value — literals are written out in full

`literalFrom` and `overlongFrom` go into one container after another with room for some of them inside
one another, and are cut off where there is no room left.  Tuples take no room, since a value has only
finitely many of them inside one another.  A container that was entered is not entered again, so each
level leaves one container less (`Store.outside_cons_lt`), and as many as there are in the store and one
more are room enough: with that nothing is cut off.

* `literalFrom_congr`, `overlongFrom_congr`: room beyond the containers that have not been entered makes
  no difference.
* `literalFrom_room`, `overlongFrom_room`: with the room that a store gives, a value is written as its
  parts are written with the same room.
* `Datum.literal_eq`, `Datum.isOverlong_eq`: so a datum has one literal, whatever the room.
-/

namespace YamlAudit

variable {s : Store} {n : Nat} {around : List Nat}

namespace Store

/-- How many containers there are besides those around. -/
def outside (s : Store) (around : List Nat) : Nat :=
  (Finset.range s.containers.size \ around.toFinset).card

/-- Inside a container that was not entered there is one container less to enter. -/
theorem outside_cons_lt (hn : n ∉ around) (hlt : n < s.containers.size) :
    s.outside (n :: around) < s.outside around := by
  rw [outside, List.toFinset_cons, Finset.sdiff_insert]
  exact Finset.card_erase_lt_of_mem (by simp [hn, hlt])

/-- No more containers can be entered than there are. -/
theorem outside_lt_room (s : Store) (around : List Nat) : s.outside around < s.room := by
  have hcard : s.outside around ≤ (Finset.range s.containers.size).card :=
    Finset.card_le_card Finset.sdiff_subset
  rw [Finset.card_range] at hcard
  exact Nat.lt_succ_of_le hcard

/-- How a container is written rests on how the values in it are, if it exists and was not entered. -/
theorem literalOf_congr {write write' : List Nat → Value → String}
    (h : n ∉ around → n < s.containers.size → write (n :: around) = write' (n :: around)) :
    s.literalOf write around n = s.literalOf write' around n := by
  by_cases hn : n ∈ around
  · simp only [literalOf, List.contains_iff_mem.mpr hn, if_true]
  · by_cases hlt : n < s.containers.size
    · simp only [literalOf, h hn hlt]
    · simp only [literalOf, get_of_size_le (Nat.le_of_not_lt hlt), List.map_nil]

/-- So does whether an integer in its literal has too many digits. -/
theorem isOverlongOf_congr {ask ask' : List Nat → Value → Bool}
    (h : n ∉ around → n < s.containers.size → ask (n :: around) = ask' (n :: around)) :
    s.isOverlongOf ask around n = s.isOverlongOf ask' around n := by
  by_cases hn : n ∈ around
  · simp only [isOverlongOf, List.contains_iff_mem.mpr hn, Bool.not_true, Bool.false_and]
  · by_cases hlt : n < s.containers.size
    · simp only [isOverlongOf, h hn hlt]
    · simp only [isOverlongOf, get_of_size_le (Nat.le_of_not_lt hlt), List.any_nil]

end Store

/-! ### Room enough -/

/-- Room for more containers than have not been entered makes no difference to a literal. -/
theorem literalFrom_congr {room room' : Nat} (h : s.outside around < room)
    (h' : s.outside around < room') : literalFrom s room around = literalFrom s room' around := by
  induction room generalizing room' around with
  | zero => cases h
  | succ room ih =>
      cases room' with
      | zero => cases h'
      | succ room' =>
          have hcontainer : s.literalOf (literalFrom s room) around =
              s.literalOf (literalFrom s room') around := by
            refine funext fun n => Store.literalOf_congr fun hn hlt => ?_
            have hless := Store.outside_cons_lt hn hlt
            exact ih (by omega) (by omega)
          exact funext fun v => by rw [literalFrom, literalFrom, hcontainer]

/-- Nor to whether an integer in it has too many digits. -/
theorem overlongFrom_congr {room room' : Nat} (h : s.outside around < room)
    (h' : s.outside around < room') : overlongFrom s room around = overlongFrom s room' around := by
  induction room generalizing room' around with
  | zero => cases h
  | succ room ih =>
      cases room' with
      | zero => cases h'
      | succ room' =>
          have hcontainer : s.isOverlongOf (overlongFrom s room) around =
              s.isOverlongOf (overlongFrom s room') around := by
            refine funext fun n => Store.isOverlongOf_congr fun hn hlt => ?_
            have hless := Store.outside_cons_lt hn hlt
            exact ih (by omega) (by omega)
          exact funext fun v => by rw [overlongFrom, overlongFrom, hcontainer]

/-- The literal of a value is made of the literals of its parts, and nothing is cut off. -/
theorem literalFrom_room (s : Store) (around : List Nat) (v : Value) :
    literalFrom s s.room around v = v.literalWith (s.literalOf (literalFrom s s.room) around) := by
  have hroom := s.outside_lt_room around
  rw [literalFrom_congr hroom (Nat.lt_succ_of_lt hroom), literalFrom]

/-- An integer in the literal of a value has too many digits if one in its parts has. -/
theorem overlongFrom_room (s : Store) (around : List Nat) (v : Value) :
    overlongFrom s s.room around v =
      v.isOverlongWith (s.isOverlongOf (overlongFrom s s.room) around) := by
  have hroom := s.outside_lt_room around
  rw [overlongFrom_congr hroom (Nat.lt_succ_of_lt hroom), overlongFrom]

namespace Datum

/-- With room for more containers than there are, the literal of a datum is what it is with any other
such room. -/
theorem literal_eq (d : Datum) (room : Nat) (h : d.store.containers.size < room) :
    d.literal = literalFrom d.store room [] d.value := by
  refine congrFun (literalFrom_congr (d.store.outside_lt_room _) ?_) _
  exact Nat.lt_of_le_of_lt (Nat.le_of_lt_succ (d.store.outside_lt_room [])) h

/-- So is whether an integer in it has too many digits. -/
theorem isOverlong_eq (d : Datum) (room : Nat) (h : d.store.containers.size < room) :
    d.isOverlong = overlongFrom d.store room [] d.value := by
  refine congrFun (overlongFrom_congr (d.store.outside_lt_room _) ?_) _
  exact Nat.lt_of_le_of_lt (Nat.le_of_lt_succ (d.store.outside_lt_room [])) h

/-- Tuples inside one another, in a store with a container that holds itself. -/
example :
    let v := Value.tuple [.tuple [.tuple [.tuple [.tuple [.tuple [.ref 0]]]]]]
    Datum.literal ⟨⟨#[.list [.bool true, .ref 0]]⟩, v⟩ =
      "((((((" ++ "[True, [...]]" ++ ",),),),),),)" := by
  decide +kernel

end Datum

end YamlAudit
