import YamlAudit.Record.Reader

/-!
# Record — Sample

Records seen as their fields.  A `Sample` is a record of one of the seven kinds; `fields` lists its
fields in order, and `assign` replaces one of them.  Locations, ranges, mismatches and places are
fixed once they are built; the others take any value for a field they have, without looking at it.
-/

namespace YamlAudit

/-- The fields of a location. -/
def Location.fields (l : Location) : List (String × Plain) :=
  [("line", .int l.line), ("column", .int l.column)]

/-- The fields of a range. -/
def Range.fields (r : Range) : List (String × Plain) :=
  [("start", .object r.start.fields), ("end", .object r.stop.fields)]

/-- A segment as exchanged data. -/
def Segment.plain : Segment → Plain
  | .key name => .text name
  | .index position => .int position

/-- The fields of a mismatch. -/
def Mismatch.fields (m : Mismatch) : List (String × Plain) :=
  [("message", .text m.message), ("path", .list (m.path.map Segment.plain)),
    ("kind", .text m.aspect.text)]

/-- The fields of a place. -/
def Place.fields (p : Place) : List (String × Plain) :=
  [("primary", .object p.primary.fields),
    ("via_trail", .list (p.via.map fun hop => .object hop.fields))]

/-- The fields of a finding. -/
def Finding.fields (f : Finding) : List (String × Plain) :=
  [("error", .object f.mismatch.fields),
    ("location", match f.place with
      | none => .null
      | some p => .object p.fields)]

/-- The fields of an outcome. -/
def Outcome.fields (o : Outcome) : List (String × Plain) :=
  [("source", .text o.source), ("errors", .list (o.findings.map fun f => .object f.fields))]

/-- The fields of a batch. -/
def Batch.fields (b : Batch) : List (String × Plain) :=
  [("results", .list (b.outcomes.map fun o => .object o.fields))]

/-- A record of one of the seven kinds. -/
inductive Sample where
  | location (l : Location)
  | range (r : Range)
  | mismatch (m : Mismatch)
  | place (p : Place)
  | finding (f : Finding)
  | outcome (o : Outcome)
  | batch (b : Batch)
  deriving DecidableEq

namespace Sample

/-- Reads a record of the kind with that name; there is no other kind. -/
def read? (kind : String) (fields : Plain) : Option (Checked Sample) :=
  match kind with
  | "SourceLocation" => some ((Location.read fields).map .location)
  | "SourceRange" => some ((Range.read fields).map .range)
  | "AbstractError" => some ((Mismatch.read fields).map .mismatch)
  | "ResolvedLocation" => some ((Place.read fields).map .place)
  | "LocatedError" => some ((Finding.read fields).map .finding)
  | "ValidationResult" => some ((Outcome.read fields).map .outcome)
  | "BatchResult" => some ((Batch.read fields).map .batch)
  | _ => none

/-- The name of the kind of a record. -/
def kindName : Sample → String
  | location _ => "SourceLocation"
  | range _ => "SourceRange"
  | mismatch _ => "AbstractError"
  | place _ => "ResolvedLocation"
  | finding _ => "LocatedError"
  | outcome _ => "ValidationResult"
  | batch _ => "BatchResult"

/-- The fields of a record in order. -/
def fields : Sample → List (String × Plain)
  | location l => l.fields
  | range r => r.fields
  | mismatch m => m.fields
  | place p => p.fields
  | finding f => f.fields
  | outcome o => o.fields
  | batch b => b.fields

/-- Whether the fields of a record can be replaced. -/
def isFixed : Sample → Bool
  | location _ | range _ | mismatch _ | place _ => true
  | finding _ | outcome _ | batch _ => false

/-- Why a field cannot be replaced. -/
inductive AssignError where
  | fixed (issue : Issue)
  | noField (kind name : String)
  deriving DecidableEq, Repr

/-- What is said of a field that a record does not have. -/
def AssignError.message : AssignError → String
  | fixed issue => issue.cause.message
  | noField kind name => "\"" ++ kind ++ "\" object has no field \"" ++ name ++ "\""

/-- The fields after one of them was replaced. -/
def assign (s : Sample) (name : String) (value : Plain) :
    Except AssignError (List (String × Plain)) :=
  if s.isFixed then .error (.fixed ⟨[.key name], .frozen⟩)
  else if s.fields.any fun f => f.1 == name then
    .ok (s.fields.map fun f => if f.1 = name then (name, value) else f)
  else .error (.noField s.kindName name)

end Sample

end YamlAudit
