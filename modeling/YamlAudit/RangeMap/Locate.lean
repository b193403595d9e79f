import YamlAudit.RangeMap.Basic

/-!
# RangeMap — Locate

From a logical path to a place in the source.  A walk (`RangeMap.walk`) takes the segments of a path
one by one and steps through alias targets wherever it meets them: before each segment, and once
more where it ends.  The first segment without a recorded position ends it, so it always lands
somewhere.  The hops through aliases are kept in the order in which they were taken; `locate`
reports them nearest the landing first.
-/

namespace YamlAudit

/-- The part of a position that is meant. -/
inductive Aspect where
  | key
  | valueStart
  | valueEnd
  | document
  deriving DecidableEq, Repr, Inhabited

/-- Where a path leads, and the aliases on the way, nearest the landing first. -/
structure Place where
  primary : Location
  via : List Location
  deriving DecidableEq, Repr, Inhabited

/-- A place reads `L3:5 via L1:2`, one `via` for each alias. -/
def Place.text (p : Place) : String :=
  " ".intercalate (p.primary.text :: p.via.map fun hop => "via " ++ hop.text)

namespace RangeMap

/-- The hops through alias targets from a position, and the position behind the last. -/
def follow : RangeMap → List Location × RangeMap
  | ⟨value, key, children, none⟩ => ([], ⟨value, key, children, none⟩)
  | ⟨value, _, _, some target⟩ =>
    let (hops, landing) := target.follow
    (value.start :: hops, landing)

/-- The hops along a path in the order taken, and the position where the walk ends. -/
def walk (m : RangeMap) : List Segment → List Location × RangeMap
  | [] => m.follow
  | segment :: rest =>
    let (hops, here) := m.follow
    match here.child segment with
    | none => (hops, here)
    | some next =>
      let (more, landing) := next.walk rest
      (hops ++ more, landing)

/-- The location of one aspect of a position. -/
def aspect (m : RangeMap) : Aspect → Location
  | .key => match m.key with
    | some range => range.start
    | none => m.value.start
  | .valueEnd => m.value.stop
  | .valueStart | .document => m.value.start

/-- Where an aspect of the position at a path is found. -/
def locate (m : RangeMap) (path : List Segment) (aspect : Aspect) : Place :=
  let (hops, landing) := m.walk path
  ⟨landing.aspect aspect, hops.reverse⟩

end RangeMap

end YamlAudit
