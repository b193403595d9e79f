/-!
# Document — Event

A document as a flat sequence of events.  A node is one event (a scalar or an alias) or begins and
ends with a pair of them (a collection); documents and the stream around them begin and end too.
Each event may know the offsets at which it begins and ends.
-/

namespace YamlAudit

/-- What an event says. -/
inductive EventKind where
  | streamStart
  | streamEnd
  | documentStart
  | documentEnd
  | scalar (anchor : Option String) (value : String)
  | alias (source : Option String)
  | sequenceStart (anchor : Option String)
  | sequenceEnd
  | mappingStart (anchor : Option String)
  | mappingEnd
  deriving DecidableEq, Repr, Inhabited

/-- What an event says and where. -/
structure Event where
  kind : EventKind
  start : Option Int
  stop : Option Int
  deriving DecidableEq, Repr, Inhabited

namespace EventKind

/-- The name of an event in an error message. -/
def name : EventKind → String
  | streamStart => "StreamStartEvent"
  | streamEnd => "StreamEndEvent"
  | documentStart => "DocumentStartEvent"
  | documentEnd => "DocumentEndEvent"
  | scalar .. => "ScalarEvent"
  | .alias .. => "AliasEvent"
  | sequenceStart .. => "SequenceStartEvent"
  | sequenceEnd => "SequenceEndEvent"
  | mappingStart .. => "MappingStartEvent"
  | mappingEnd => "MappingEndEvent"

/-- The events around the documents carry no part of a tree. -/
def isStream : EventKind → Bool
  | streamStart | streamEnd => true
  | _ => false

end EventKind

end YamlAudit
