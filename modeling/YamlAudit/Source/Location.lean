/-!
# Source — Location

Places in a text.  A `Location` is a line and a column, both counted from one in a text that has
any; locations are ordered by reading order.  A `Range` is a pair of locations in that order: its
order is a field, so a range that runs backwards cannot be built (`Range.of?` refuses it).
-/

namespace YamlAudit

/-- A line and a column. -/
structure Location where
  line : Int
  column : Int
  deriving DecidableEq, Repr, Inhabited

namespace Location

/-- Reading order: the earlier line first, then the earlier column. -/
protected def le (a b : Location) : Prop :=
  a.line < b.line ∨ (a.line = b.line ∧ a.column ≤ b.column)

/-- Strict reading order. -/
protected def lt (a b : Location) : Prop :=
  a.line < b.line ∨ (a.line = b.line ∧ a.column < b.column)

instance : LE Location := ⟨Location.le⟩
instance : LT Location := ⟨Location.lt⟩

instance (a b : Location) : Decidable (a ≤ b) :=
  inferInstanceAs (Decidable (a.line < b.line ∨ (a.line = b.line ∧ a.column ≤ b.column)))

instance (a b : Location) : Decidable (a < b) :=
  inferInstanceAs (Decidable (a.line < b.line ∨ (a.line = b.line ∧ a.column < b.column)))

theorem le_def {a b : Location} :
    a ≤ b ↔ a.line < b.line ∨ (a.line = b.line ∧ a.column ≤ b.column) := Iff.rfl

theorem lt_def {a b : Location} :
    a < b ↔ a.line < b.line ∨ (a.line = b.line ∧ a.column < b.column) := Iff.rfl

theorem le_refl (a : Location) : a ≤ a := Or.inr ⟨rfl, Int.le_refl _⟩

theorem le_trans {a b c : Location} (h₁ : a ≤ b) (h₂ : b ≤ c) : a ≤ c := by
  rw [le_def] at *; omega

theorem not_le {a b : Location} : ¬ a ≤ b ↔ b < a := by
  rw [le_def, lt_def]; omega

/-- A location reads `L3:5`: the line, then the column. -/
def text (l : Location) : String :=
  "L" ++ toString l.line ++ ":" ++ toString l.column

/-- The location `k` lines further down. -/
def down (l : Location) (k : Int) : Location :=
  { l with line := l.line + k }

end Location

/-- A stretch of text between two locations, the first not after the second. -/
structure Range where
  start : Location
  stop : Location
  start_le_stop : start ≤ stop
  deriving DecidableEq

/-- Two locations that were to bound a range but stand in the wrong order. -/
structure Reversed where
  start : Location
  stop : Location
  deriving DecidableEq, Repr

/-- What is said of a reversed pair: its end first. -/
def Reversed.message (r : Reversed) : String :=
  "range end " ++ r.stop.text ++ " precedes start " ++ r.start.text

namespace Range

/-- The range between two locations, refused when the end precedes the start. -/
def of? (start stop : Location) : Except Reversed Range :=
  if h : start ≤ stop then .ok ⟨start, stop, h⟩ else .error ⟨start, stop⟩

theorem of?_eq_ok_iff {a b : Location} {r : Range} :
    of? a b = .ok r ↔ a ≤ b ∧ r.start = a ∧ r.stop = b := by
  obtain ⟨s, e, hr⟩ := r
  by_cases h : a ≤ b <;> simp [of?, h, eq_comm]

/-- The same range `k` lines further down. -/
def down (r : Range) (k : Int) : Range where
  start := r.start.down k
  stop := r.stop.down k
  start_le_stop := by
    have h := r.start_le_stop
    rw [Location.le_def] at h
    simp only [Location.le_def, Location.down]
    omega

end Range

end YamlAudit
