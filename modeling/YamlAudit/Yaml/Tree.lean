import YamlAudit.Yaml.Grammar
import YamlAudit.Document.Compose

/-!
# Yaml — Tree

From a text to the tree of its one document.  The parts of the text are composed as they are read, so
whichever problem comes first is the answer: a fault of the text, or an event that does not compose.
A version directive outlasts its document, so the version in force when the reading stopped is part
of the result.
-/

namespace YamlAudit

/-- How many events are read up to the first that cannot be. -/
def Progress.reach (limit : Int) : Progress → List Event → Nat
  | _, [] => 0
  | p, event :: rest =>
    match Progress.step limit p event with
    | .ok q => reach limit q rest + 1
    | .error _ => 1

namespace Yaml

/-- Why a text has no tree. -/
inductive TreeError where
  | text (fault : Fault)
  | composition (e : CompositionError)

/-- The tree of a text, and the version in force when the reading stopped. -/
structure TreeRun where
  tree : Except TreeError (Option Node)
  version : Version

/-- Composes the parts of a run. -/
def MarkupRun.tree (limit : Int) (run : MarkupRun) : TreeRun :=
  let parts := run.parts.filter fun m => !m.kind.event.isStream
  let events := parts.map Markup.event
  match Progress.run limit .before events with
  | .error e =>
    let last := parts[Progress.reach limit .before events - 1]?
    ⟨.error (.composition e), (last.map Markup.version).getD run.version⟩
  | .ok p =>
    match run.halt with
    | some fault => ⟨.error (.text fault), run.version⟩
    | none => ⟨p.finish.mapError .composition, run.version⟩

/-- The tree of a text that is read as `version` until a directive gives another. -/
def Tree.read (limit : Int) (version : Version) (source : List Char) : TreeRun :=
  (Markup.run version source).tree limit

end Yaml

end YamlAudit
