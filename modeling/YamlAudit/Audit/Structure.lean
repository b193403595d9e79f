import YamlAudit.Yaml.Build

/-!
# Audit — Structure

The text of a structure, which says what documents have to look like.  It is read as any value is,
keys of all kinds included, and has to be a mapping.
-/

namespace YamlAudit

/-- Whether a problem of a stage is reported as a problem of the text; at the other stages it is the
failure of a conversion. -/
def Yaml.Stage.isReported : Yaml.Stage → Bool
  | .conversion | .range | .assertion => false
  | _ => true

/-- Why a text is no structure. -/
inductive StructureError where
  | malformed (f : Yaml.Fault)
  | notMapping
  /-- The text is in order, but not a value in it. -/
  | conversion (e : Yaml.BuildError)
  /-- Calls lie deeper inside one another than they may. -/
  | exhausted

/-- What keeps a text from being a structure, when its value cannot be read. -/
def StructureError.ofRead : Yaml.ReadError → StructureError
  | .tooNested | .value (.refusal .exhausted) => .exhausted
  | .value (.fault f) => if f.problem.stage.isReported then .malformed f else .conversion (.fault f)
  | .value (.refusal r) => .conversion (.refusal r)

/-- The wording of why a text is no structure. -/
def StructureError.message : StructureError → String
  | malformed f => "Failed to parse structure: " ++ f.message
  | notMapping => "Structure must be a mapping"
  | conversion (.fault f) => f.message
  | conversion (.refusal r) => r.message
  | exhausted => Yaml.Refusal.exhausted.message

/-- Reads the text of a structure. -/
def readStructure (text : String) : Except StructureError Datum :=
  match (Yaml.ValueReader.start.read false text.toList).1 with
  | .error e => .error (.ofRead e)
  | .ok d => if d.entries?.isSome then .ok d else .error .notMapping

end YamlAudit
