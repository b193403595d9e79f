import YamlAudit.RangeMap.Locate

/-!
# Findings — Basic

What an audit of documents yields.  A `Mismatch` is addressed by a logical path; a `Finding` pairs
it with the place it was traced to, if there is one; an `Outcome` holds the findings of one document
and a `Batch` the outcomes of several.  A document without findings is valid, and so is a batch of
valid documents only.
-/

namespace YamlAudit

-- sums begin with the zero of the core library, whatever else is in scope
attribute [local instance (2000)] Zero.ofOfNat0

/-- Something wrong at a logical path of a document, or with the document as a whole. -/
structure Mismatch where
  message : String
  path : List Segment
  aspect : Aspect
  deriving DecidableEq, Repr, Inhabited

/-- A mismatch of the document as a whole. -/
def Mismatch.ofDocument (message : String) : Mismatch := ⟨message, [], .document⟩

/-- A mismatch and where it was traced to. -/
structure Finding where
  mismatch : Mismatch
  place : Option Place
  deriving DecidableEq, Repr, Inhabited

/-- Traces a mismatch through the range map of its document, if there is one. -/
def Mismatch.trace (m : Mismatch) (map : Option RangeMap) : Finding :=
  ⟨m, map.map fun r => r.locate m.path m.aspect⟩

/-- The findings of one document. -/
structure Outcome where
  source : String
  findings : List Finding
  deriving DecidableEq, Repr, Inhabited

/-- A document is valid when nothing was found. -/
def Outcome.valid (o : Outcome) : Bool := o.findings.isEmpty

/-- The outcomes of several documents. -/
structure Batch where
  outcomes : List Outcome
  deriving DecidableEq, Repr, Inhabited

namespace Batch

/-- A batch is valid when each of its documents is. -/
def valid (b : Batch) : Bool := b.outcomes.all Outcome.valid

/-- The number of findings in all documents. -/
def findingCount (b : Batch) : Nat := (b.outcomes.map fun o => o.findings.length).sum

/-- The outcomes of the documents that are not valid. -/
def failed (b : Batch) : List Outcome := b.outcomes.filter fun o => !o.valid

end Batch

end YamlAudit
