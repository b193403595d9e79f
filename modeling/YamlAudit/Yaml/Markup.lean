import YamlAudit.Yaml.Token
import YamlAudit.Document.Event

/-!
# Yaml — Markup

A text as a flat sequence of marked-up parts: documents begin and end, collections begin and end,
scalars and aliases stand between.  In contrast to an `Event` a part keeps all that its value hangs
on, its tag, its style and the version in force.
-/

namespace YamlAudit.Yaml

/-- What stands in front of a node: an anchor and a tag. -/
structure Properties where
  anchor : Option String
  tag : Option String
  deriving DecidableEq, Repr, Inhabited

/-- What a part says. -/
inductive MarkupKind where
  | documentStart
  | documentEnd
  | streamEnd
  | alias (name : String)
  /-- The type of a scalar is inferred from its text if it is `untyped`. -/
  | scalar (properties : Properties) (untyped : Bool) (value : String)
  | sequenceStart (properties : Properties)
  | sequenceEnd
  | mappingStart (properties : Properties)
  | mappingEnd
  deriving DecidableEq, Repr, Inhabited

/-- A part, its place, and the version in force. -/
structure Markup where
  kind : MarkupKind
  start : Mark
  stop : Mark
  version : Version
  deriving Inhabited

/-- What an event tells of a part. -/
def MarkupKind.event : MarkupKind → EventKind
  | documentStart => .documentStart
  | documentEnd => .documentEnd
  | streamEnd => .streamEnd
  | .alias name => .alias (some name)
  | scalar properties _ value => .scalar properties.anchor value
  | sequenceStart properties => .sequenceStart properties.anchor
  | sequenceEnd => .sequenceEnd
  | mappingStart properties => .mappingStart properties.anchor
  | mappingEnd => .mappingEnd

/-- A part as an event of a document. -/
def Markup.event (m : Markup) : Event :=
  ⟨m.kind.event, some (m.start.index : Int), some (m.stop.index : Int)⟩

end YamlAudit.Yaml
