import YamlAudit.RangeMap.Basic
import YamlAudit.Schema.Fault

/-!
# Schema — Verdict

What comes of holding a value against a schema.  A `Verdict` lists the violations in the order in
which they are found; a fault is something that keeps the search from going on, and what was found
before it still counts.  A value is valid when nothing is found, so a fault after the first violation
does not matter to that question (`Verdict.valid`).
-/

namespace YamlAudit

/-- A value that is not as a schema asks for. -/
structure Violation where
  message : String
  /-- Where the value lies, from the value the search began with. -/
  path : List Segment
  /-- The keyword that asks; a schema that allows nothing has none. -/
  keyword : Option String
  /-- What the keyword says. -/
  rule : Value
  /-- The offending value. -/
  subject : Value
  /-- The schema with the keyword. -/
  schema : Value
  deriving Inhabited

/-- The same violation for a value that lies one step further down. -/
def Violation.under (segment : Segment) (v : Violation) : Violation :=
  { v with path := segment :: v.path }

/-- The violations found, and what kept the search from going on. -/
structure Verdict where
  violations : List Violation
  fault : Option SchemaFault
  deriving Inhabited

namespace Verdict

/-- Nothing found. -/
def clean : Verdict := ⟨[], none⟩

/-- The search ends here. -/
def stop (f : SchemaFault) : Verdict := ⟨[], some f⟩

/-- One verdict after another, unless the first has ended the search. -/
def andThen (a : Verdict) (b : Unit → Verdict) : Verdict :=
  match a.fault with
  | some _ => a
  | none => let b := b (); ⟨a.violations ++ b.violations, b.fault⟩

/-- The verdicts on some things in turn. -/
def each {α : Type} (judge : α → Verdict) : List α → Verdict
  | [] => clean
  | a :: rest => (judge a).andThen fun _ => each judge rest

/-- A verdict that needs something which may be missing. -/
def onOk {α : Type} (a : Except SchemaFault α) (judge : α → Verdict) : Verdict :=
  match a with
  | .ok a => judge a
  | .error f => stop f

/-- The same verdict on a value that lies one step further down. -/
def under (segment : Segment) (v : Verdict) : Verdict :=
  { v with violations := v.violations.map (Violation.under segment) }

/-- Whether nothing is wrong. -/
def valid (v : Verdict) : Except SchemaFault Bool :=
  if !v.violations.isEmpty then .ok false
  else match v.fault with
    | some f => .error f
    | none => .ok true

/-- All that is wrong. -/
def complete (v : Verdict) : Except SchemaFault (List Violation) :=
  match v.fault with
  | some f => .error f
  | none => .ok v.violations

end Verdict

end YamlAudit
