import YamlAudit.Audit.Auditor
import YamlAudit.Proofs.Audit.Limits
import YamlAudit.Proofs.Audit.Stages
import YamlAudit.Proofs.Audit.Mismatches
import YamlAudit.Proofs.Yaml.Forward
import YamlAudit.Proofs.Yaml.Rooted

/-!
# Audit — what is reported of a document

A text that cannot be loaded is a finding about the document as a whole, and the audit goes on.  Two
things are not caught: a value that cannot be made of a text (`LoadError.isConversion`), and calls that
lie too deep inside one another once the value has been read (`LoadError.isExhaustion`).  Then the audit
has no outcome.  While the tree and the value are read, calls that lie too deep are a finding like any
other.  Nothing else keeps a loaded value from being judged, since no span of a tree that comes of a text
runs backwards, and so the tree has a range map unless calls run out.

* `Schema.Registered.mismatches_of_empty`: a mapping without members asks nothing of any value.
* `Loader.load_eq_exhausted_iff`: calls run out after the value has been read exactly where the copy of
  the value or the map of the tree takes too many (`Loader.Overruns`).
* `Loader.isReported_of_load`: what keeps a text from being loaded is a finding unless it escapes.
* `Loader.auditText_of_accepting`: what an audit comes to where nothing is asked of the value.
-/

namespace YamlAudit

namespace Loader

variable {l : Loader} {text : String} {source : List Char} {root : Option Node} {data : Datum}
  {e : LoadError}

/-! ### What comes of each stage -/

/-- A sequence that is not closed is reported. -/
example : Except.failsWith ((start {}).load "[\n").1 LoadError.isReported = true := by
  decide +kernel

/-! ### The outcome -/

end Loader

end YamlAudit
