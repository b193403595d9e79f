import YamlAudit.Record.Integer
import YamlAudit.Findings.Basic

/-!
# Record — Reader

Reading locations, places, mismatches, findings and outcomes from exchanged data.  A record is read
from an object by its fields; members without a field are ignored, a field that is missing is an
issue unless it has a default, and the issues of all fields are collected in their order.
-/

namespace YamlAudit

/-- The members of an object that is to be read as a record of that name. -/
def readMembers (record : String) : Plain → Checked (List (String × Plain))
  | .object members => .ok members
  | _ => .issue (.notRecord record)

/-- Reads a field that has to be there. -/
def field {α : Type} (members : List (String × Plain)) (name : String)
    (read : Plain → Checked α) : Checked α :=
  Checked.under (.key name) <| match members.lookup name with
    | some v => read v
    | none => .issue .missing

/-- Reads a field that may be left out. -/
def fieldOr {α : Type} (members : List (String × Plain)) (name : String) (default : α)
    (read : Plain → Checked α) : Checked α :=
  Checked.under (.key name) <| match members.lookup name with
    | some v => read v
    | none => .ok default

/-- Reads the items of a list; `other` is the issue of anything else. -/
def readItems {α : Type} (other : IssueCause) (read : Plain → Checked α) :
    Plain → Checked (List α)
  | .list items => Checked.each read 0 items
  | _ => .issue other

/-- Null is no value; anything else is read. -/
def readOptional {α : Type} (read : Plain → Checked α) : Plain → Checked (Option α)
  | .null => .ok none
  | v => (read v).map some

/-- Reads a location. -/
def Location.read (v : Plain) : Checked Location := do
  let ms ← readMembers "SourceLocation" v
  (Checked.both (field ms "line" readInteger) (field ms "column" readInteger)).map
    fun p => ⟨p.1, p.2⟩

/-- Reads a range; its ends have to be in order. -/
def Range.read (v : Plain) : Checked Range := do
  let ms ← readMembers "SourceRange" v
  let (start, stop) ← Checked.both (field ms "start" Location.read) (field ms "end" Location.read)
  match Range.of? start stop with
  | .ok r => .ok r
  | .error e => .issue (.inconsistent e.message)

/-- Reads a segment of a path: a text, or else an integer. -/
def Segment.read : Plain → Checked Segment
  | .text s => .ok (.key s)
  | v => match readInteger v with
    | .ok n => .ok (.index n)
    | .error issues =>
      .error (⟨[.key "str"], .notString⟩ ::
        issues.map fun i => { i with path := .key "int" :: i.path })

/-- The name of an aspect. -/
def Aspect.text : Aspect → String
  | .key => "key"
  | .valueStart => "value-start"
  | .valueEnd => "value-end"
  | .document => "meta"

/-- Reads an aspect from its name. -/
def Aspect.read : Plain → Checked Aspect
  | .text "key" => .ok .key
  | .text "value-start" => .ok .valueStart
  | .text "value-end" => .ok .valueEnd
  | .text "meta" => .ok .document
  | _ => .issue .unknownAspect

/-- Reads a mismatch; without a path it is at the root, without an aspect at the start of a value. -/
def Mismatch.read (v : Plain) : Checked Mismatch := do
  let ms ← readMembers "AbstractError" v
  let all := Checked.both (field ms "message" readText) <| Checked.both
    (fieldOr ms "path" [] (readItems .notTuple Segment.read))
    (fieldOr ms "kind" Aspect.valueStart Aspect.read)
  all.map fun (message, path, aspect) => ⟨message, path, aspect⟩

/-- Reads the message of a mismatch of a document as a whole. -/
def Mismatch.readOfDocument (message : Plain) : Checked Mismatch :=
  (Checked.under (.key "message") (readText message)).map Mismatch.ofDocument

/-- Reads a place. -/
def Place.read (v : Plain) : Checked Place := do
  let ms ← readMembers "ResolvedLocation" v
  let all := Checked.both (field ms "primary" Location.read)
    (fieldOr ms "via_trail" [] (readItems .notTuple Location.read))
  all.map fun (primary, via) => ⟨primary, via⟩

/-- Reads a finding. -/
def Finding.read (v : Plain) : Checked Finding := do
  let ms ← readMembers "LocatedError" v
  let all := Checked.both (field ms "error" Mismatch.read)
    (fieldOr ms "location" none (readOptional Place.read))
  all.map fun (mismatch, place) => ⟨mismatch, place⟩

/-- Reads the outcome of a document. -/
def Outcome.read (v : Plain) : Checked Outcome := do
  let ms ← readMembers "ValidationResult" v
  let all := Checked.both (field ms "source" readText)
    (fieldOr ms "errors" [] (readItems .notList Finding.read))
  all.map fun (source, findings) => ⟨source, findings⟩

/-- Reads a batch. -/
def Batch.read (v : Plain) : Checked Batch := do
  let ms ← readMembers "BatchResult" v
  (fieldOr ms "results" [] (readItems .notList Outcome.read)).map fun outcomes => ⟨outcomes⟩

end YamlAudit
