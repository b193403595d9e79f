import YamlAudit.Audit.FileTree
import YamlAudit.Audit.Loader
import YamlAudit.Audit.Structure
import YamlAudit.Findings.Basic

/-!
# Audit — Auditor

Documents from beginning to end: each is loaded, held against what is expected of it, and every
mismatch is traced to its place.  What is wrong with the document itself is a finding like any other.
Only an `AuditFault` ends an audit without an outcome: a value that cannot be converted, calls that lie
too deep inside one another once the value has been read, or an expectation that cannot be applied.
-/

namespace YamlAudit

/-- What is expected of the value of a document: the mismatches, unless it cannot be told. -/
abbrev Expectation (ε : Type) := Datum → Except ε (List Mismatch)

/-- What ends an audit without an outcome. -/
inductive AuditFault (ε : Type) where
  | loading (e : LoadError)
  | expectation (e : ε)

/-- Whether a document that cannot be loaded is a finding. -/
def LoadError.isReported : LoadError → Bool
  | tooLarge _ _ | tooManyNodes _ | tooNested => true
  | tree (.text f) => f.problem.stage.isReported
  | tree (.composition .missingRoot) => false
  | tree (.composition _) => true
  | value (.fault f) => f.problem.stage.isReported
  | value (.refusal .exhausted) => true
  | value (.refusal _) => false
  | key _ | exhausted | range _ => false

/-- The outcome of a document with one finding about it as a whole. -/
def Outcome.ofMessage (source message : String) (map : Option RangeMap) : Outcome :=
  ⟨source, [(Mismatch.ofDocument message).trace map]⟩

/-- The outcome of a document that could not be read. -/
def Outcome.unreadable (source reason : String) : Outcome :=
  .ofMessage source ("Failed to parse document: " ++ reason) none

/-- The outcome of a document that was loaded. -/
def LoadedDocument.outcome {ε : Type} (d : LoadedDocument) (source : String)
    (expected : Expectation ε) : Except (AuditFault ε) Outcome :=
  match expected d.data with
  | .ok found => .ok ⟨source, found.map fun m => m.trace d.rangeMap⟩
  | .error e => .error (.expectation e)

namespace Loader

/-- Audits a text; nothing may be expected of it, which is a finding. -/
def auditText {ε : Type} (l : Loader) (source text : String) (expected : Option (Expectation ε)) :
    Except (AuditFault ε) Outcome × Loader :=
  let (result, l) := l.load text
  let outcome := match result, expected with
    | .error e, _ =>
      if e.isReported then .ok (.unreadable source e.message) else .error (.loading e)
    | .ok d, some expected => d.outcome source expected
    | .ok d, none =>
      .ok (.ofMessage source "Unable to determine expected structure for file" d.rangeMap)
  (outcome, l)

/-- Audits the file at a path. -/
def auditFile {ε : Type} (l : Loader) (files : FileTree) (expected : Option (Expectation ε))
    (path : PathName) : Except (AuditFault ε) Outcome × Loader :=
  match files.find? path with
  | none => (.ok (.ofMessage path.text "File does not exist" none), l)
  | some .directory => (.ok (.ofMessage path.text "Not a file" none), l)
  | some (.file bytes) =>
    match fileText bytes with
    | .error fault => (.ok (.unreadable path.text fault.message), l)
    | .ok text => l.auditText path.text text expected

/-- Audits files in turn. -/
def auditFiles {ε : Type} (l : Loader) (files : FileTree) (expected : Option (Expectation ε)) :
    List PathName → Except (AuditFault ε) Batch
  | [] => .ok ⟨[]⟩
  | path :: rest =>
    match l.auditFile files expected path with
    | (.error fault, _) => .error fault
    | (.ok outcome, l) =>
      match l.auditFiles files expected rest with
      | .error fault => .error fault
      | .ok batch => .ok ⟨outcome :: batch.outcomes⟩

end Loader

end YamlAudit
