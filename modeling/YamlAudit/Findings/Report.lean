import YamlAudit.Findings.Basic

/-!
# Findings — Report

Findings as lines of text.  A finding reads `message (dotted.path) [L3:5 via L1:2]`, where a part
without content is left out; the report of a document puts a headline above its findings and is
empty for a valid one; the summary of a batch is a single line.
-/

namespace YamlAudit

/-- `one` for a single thing, `many` for any other number. -/
def byNumber (count : Nat) (one many : String) : String :=
  if count = 1 then one else many

/-- The line of one finding. -/
def Finding.text (f : Finding) : String :=
  let path :=
    if f.mismatch.path.isEmpty then ""
    else " (" ++ ".".intercalate (f.mismatch.path.map Segment.text) ++ ")"
  let place := match f.place with
    | none => ""
    | some p => " [" ++ p.text ++ "]"
  f.mismatch.message ++ path ++ place

/-- The report of one document; nothing when it is valid. -/
def Outcome.report (o : Outcome) (indent : String) : List String :=
  if o.valid then []
  else
    let count := o.findings.length
    ("Found " ++ toString count ++ " error" ++ byNumber count "" "s" ++ " in file '" ++ o.source
      ++ "':") :: o.findings.map fun f => indent ++ f.text

/-- The closing line of a batch. -/
def Batch.summary (b : Batch) : String :=
  if b.valid then "All yaml files matched the expected structure(s)!"
  else
    let total := b.outcomes.length
    toString b.failed.length ++ " of " ++ toString total ++ " file" ++ byNumber total "" "s"
      ++ " failed validation (" ++ toString b.findingCount ++ " error"
      ++ byNumber b.findingCount "" "s" ++ ")"

end YamlAudit
