import YamlAudit.Source.Location

/-!
# RangeMap — Basic

A `RangeMap` has the logical shape of a document with the source ranges attached.  Below a position
lie its children, under the keys of a mapping and the positions of a sequence, in the order in which
they were first met; a position that is an alias has the map of the anchored node as its `target`.
A segment that is missing has no recorded position, which does not mean that the document lacks it.
-/

namespace YamlAudit

/-- One step of a logical path: a mapping key or a sequence position. -/
inductive Segment where
  | key (name : String)
  | index (position : Int)
  deriving DecidableEq, Repr, Inhabited

/-- A segment as it stands in a dotted path. -/
def Segment.text : Segment → String
  | key name => name
  | index position => toString position

/-- One logical position of a document and all below it. -/
structure RangeMap where
  value : Range
  key : Option Range
  children : List (Segment × RangeMap)
  target : Option RangeMap

namespace RangeMap

/-- A position with nothing recorded below it. -/
def leaf (value : Range) (key : Option Range) : RangeMap := ⟨value, key, [], none⟩

/-- The first entry under a segment. -/
def lookup (segment : Segment) : List (Segment × RangeMap) → Option RangeMap
  | [] => none
  | (s, m) :: rest => if s = segment then some m else lookup segment rest

/-- The position one step down, if one is recorded. -/
def child (m : RangeMap) (segment : Segment) : Option RangeMap :=
  lookup segment m.children

/-- Puts `m` under a segment, in the place of an earlier entry or at the end. -/
def put (segment : Segment) (m : RangeMap) : List (Segment × RangeMap) → List (Segment × RangeMap)
  | [] => [(segment, m)]
  | (s, old) :: rest => if s = segment then (s, m) :: rest else (s, old) :: put segment m rest

/-- What `put` writes, `lookup` finds; other segments are not touched. -/
theorem lookup_put (s t : Segment) (m : RangeMap) (entries : List (Segment × RangeMap)) :
    lookup t (put s m entries) = if s = t then some m else lookup t entries := by
  induction entries with
  | nil => by_cases h : s = t <;> simp [put, lookup, h]
  | cons e rest ih =>
    obtain ⟨u, old⟩ := e
    by_cases hu : u = s
    · subst hu
      by_cases h : u = t <;> simp [put, lookup, h]
    · by_cases ht : u = t
      · subst ht
        have : ¬ s = u := fun h => hu h.symm
        simp [put, lookup, hu, this]
      · simp [put, lookup, hu, ht, ih]

/-- Entries in the order of their first mention, each with the map mentioned last. -/
def ofEntries (entries : List (Segment × RangeMap)) : List (Segment × RangeMap) :=
  entries.foldl (fun acc e => put e.1 e.2 acc) []

end RangeMap

end YamlAudit
