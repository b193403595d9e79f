import YamlAudit.Proofs.RangeMap.Chain
import YamlAudit.RangeMap.Index

/-!
# RangeMap — maps further down

A map is moved down by moving all its ranges, those of keys and those behind aliases included
(`RangeMap.down`).  Segments, the order of children and targets are not touched: a leaf is written
into the moved map as into the map, and a walk through it meets the same positions.

* `record_down`: what is written into a map that lies further down.
* `locate_down`: what is located in a map that lies further down.

Moving commutes with all that reads or writes a map, because nothing in it is ever compared with a
location.  So the laws are equations, one for each operation.
-/

namespace YamlAudit

/-- The same step `k` lines further down. -/
def PathStep.down (k : Int) (p : PathStep) : PathStep :=
  ⟨p.segment, p.value.down k, p.key.map (·.down k)⟩

/-- The same place `k` lines further down, and with it the aliases on the way. -/
def Place.down (k : Int) (p : Place) : Place :=
  ⟨p.primary.down k, p.via.map (·.down k)⟩

namespace RangeMap

mutual

/-- The same map with all its ranges `k` lines further down. -/
def down (k : Int) : RangeMap → RangeMap
  | ⟨value, key, children, target⟩ =>
    ⟨value.down k, key.map (·.down k), downEntries k children, downTarget k target⟩

/-- The entries below a position, further down. -/
def downEntries (k : Int) : List (Segment × RangeMap) → List (Segment × RangeMap)
  | [] => []
  | (segment, m) :: rest => (segment, m.down k) :: downEntries k rest

/-- What is behind an alias, further down. -/
def downTarget (k : Int) : Option RangeMap → Option RangeMap
  | none => none
  | some m => some (m.down k)

end

variable {k : Int}

/-- Children are moved one by one. -/
theorem downEntries_eq (entries : List (Segment × RangeMap)) :
    downEntries k entries = entries.map fun e => (e.1, e.2.down k) := by
  induction entries with
  | nil => rfl
  | cons e rest ih => rw [downEntries, ih, List.map_cons]

theorem downTarget_eq (target : Option RangeMap) : downTarget k target = target.map (down k) := by
  cases target <;> rfl

/-- No child comes or goes, and none changes its segment. -/
@[simp] theorem children_down (m : RangeMap) :
    (m.down k).children = m.children.map fun e => (e.1, e.2.down k) := by
  cases m; exact downEntries_eq _

@[simp] theorem target_down (m : RangeMap) : (m.down k).target = m.target.map (down k) := by
  cases m; exact downTarget_eq _

/-- A segment leads to the moved child. -/
theorem lookup_down (segment : Segment) (entries : List (Segment × RangeMap)) :
    lookup segment (entries.map fun e => (e.1, e.2.down k)) =
      (lookup segment entries).map (down k) := by
  induction entries with
  | nil => rfl
  | cons e rest ih =>
      rw [List.map_cons, lookup, lookup]
      split
      · rfl
      · exact ih

/-- A moved child is put where the child was. -/
theorem put_down (segment : Segment) (m : RangeMap) (entries : List (Segment × RangeMap)) :
    put segment (m.down k) (entries.map fun e => (e.1, e.2.down k)) =
      (put segment m entries).map fun e => (e.1, e.2.down k) := by
  induction entries with
  | nil => rfl
  | cons e rest ih =>
      rw [List.map_cons, put, put]
      split
      · rfl
      · rw [List.map_cons, ih]

/-- So a step leads to the moved child. -/
@[simp] theorem child_down (m : RangeMap) (segment : Segment) :
    (m.down k).child segment = (m.child segment).map (down k) := by
  rw [child, children_down, lookup_down, child]

/-- What is there already at the end of a path is moved. -/
theorem targetAt_down (m : RangeMap) (steps : List PathStep) :
    (m.down k).targetAt (steps.map (·.down k)) = (m.targetAt steps).map (down k) := by
  induction steps generalizing m with
  | nil => exact target_down m
  | cons step rest ih =>
      rw [List.map_cons, targetAt, targetAt, PathStep.down, child_down]
      cases m.child step.segment with
      | none => rfl
      | some c => exact ih c

/-- Writing a moved leaf into a moved map gives the moved result. -/
theorem record_down (leafRange : Range) (target : Option RangeMap) (steps : List PathStep)
    (m : RangeMap) :
    record (leafRange.down k) (target.map (down k)) (steps.map (·.down k)) (m.down k) =
      (record leafRange target steps m).down k := by
  induction steps generalizing m with
  | nil =>
      obtain ⟨value, key, children, old⟩ := m
      cases target <;> rfl
  | cons step rest ih =>
      have hnext : ((m.down k).child step.segment).getD
          (leaf (step.value.down k) (step.key.map (·.down k))) =
            ((m.child step.segment).getD (leaf step.value step.key)).down k := by
        rw [child_down]
        cases m.child step.segment <;> rfl
      rw [List.map_cons, record, record, PathStep.down, hnext, ih, children_down, put_down,
        ← downEntries_eq]
      cases m
      rfl

/-! ### Walks through maps -/

/-- Following aliases meets the positions of the same aliases. -/
theorem follow_down (m : RangeMap) :
    (m.down k).follow = (m.follow.1.map (·.down k), m.follow.2.down k) := by
  induction m using follow.induct with
  | case1 => rfl
  | case2 value key children target hops landing heq ih =>
      rw [down, downTarget, follow, follow, ih, heq]
      rfl

/-- A walk meets the same positions and ends in the moved map. -/
theorem walk_down (m : RangeMap) (path : List Segment) :
    (m.down k).walk path = ((m.walk path).1.map (·.down k), (m.walk path).2.down k) := by
  induction path generalizing m with
  | nil => exact follow_down m
  | cons segment rest ih =>
      have hchild : (m.down k).follow.2.child segment =
          (m.follow.2.child segment).map (down k) := by
        rw [follow_down, child_down]
      cases hc : m.follow.2.child segment with
      | none =>
          rw [walk_cons_of_none (hchild.trans (by rw [hc]; rfl)), walk_cons_of_none hc, follow_down]
      | some next =>
          rw [walk_cons_of_some (hchild.trans (by rw [hc]; rfl)), walk_cons_of_some hc, ih,
            follow_down, List.map_append]

/-- The key, the value and its end are moved, and so is what stands in for a missing key. -/
theorem aspect_down (m : RangeMap) (aspect : Aspect) :
    (m.down k).aspect aspect = (m.aspect aspect).down k := by
  obtain ⟨value, key, children, target⟩ := m
  cases aspect with
  | key => cases key <;> rfl
  | _ => rfl

/-- In a map that lies further down every place is further down, and so are the aliases on the way. -/
theorem locate_down (m : RangeMap) (path : List Segment) (aspect : Aspect) :
    (m.down k).locate path aspect = (m.locate path aspect).down k := by
  simp only [locate, walk_down, aspect_down, Place.down, List.map_reverse]

end RangeMap

end YamlAudit
