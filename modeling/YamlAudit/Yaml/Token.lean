import YamlAudit.Yaml.Mark

/-!
# Yaml — Token

The smallest meaningful parts of a text.  Indicators and the beginnings and ends of block
collections are tokens of their own; the latter come from indentation and take no room in the text.
A token knows its place and the version of the language that was in force when it was read.
-/

namespace YamlAudit.Yaml

/-- A version of the language, as a directive gives it. -/
abbrev Version := Nat × Nat

/-- Without a directive texts are read as version 1.2. -/
def Version.default : Version := (1, 2)

/-- The older version has rules of its own. -/
def Version.isOld (v : Version) : Bool := v == (1, 1)

/-- Later than version 1.1. -/
def Version.isNew (v : Version) : Bool := 1 < v.1 || (v.1 == 1 && 1 < v.2)

/-- How a scalar is written. -/
inductive ScalarStyle where
  | plain
  | quoted
  | block
  deriving DecidableEq, Repr, Inhabited

/-- What a directive says. -/
inductive DirectiveContent where
  | version (v : Version)
  | tagPrefix (handle replacement : String)
  | other
  deriving DecidableEq, Repr, Inhabited

/-- A tag as it is written: a handle, if it has one, and the rest. -/
structure TagName where
  handle : Option String
  suffix : String
  deriving DecidableEq, Repr, Inhabited

/-- What a token is. -/
inductive TokenKind where
  | directive (content : DirectiveContent)
  | documentStart
  | documentEnd
  | streamEnd
  | blockSequenceStart
  | blockMappingStart
  | blockEnd
  | flowSequenceStart
  | flowSequenceEnd
  | flowMappingStart
  | flowMappingEnd
  | flowEntry
  | blockEntry
  | key
  | value
  | alias (name : String)
  | anchor (name : String)
  | tag (name : TagName)
  | scalar (style : ScalarStyle) (value : String)
  deriving DecidableEq, Repr, Inhabited

/-- The name of a token in a fault. -/
def TokenKind.name : TokenKind → String
  | directive _ => "<directive>"
  | documentStart => "<document start>"
  | documentEnd => "<document end>"
  | streamEnd => "<stream end>"
  | blockSequenceStart => "<block sequence start>"
  | blockMappingStart => "<block mapping start>"
  | blockEnd => "<block end>"
  | flowSequenceStart => "["
  | flowSequenceEnd => "]"
  | flowMappingStart => "\x7b"
  | flowMappingEnd => "\x7d"
  | flowEntry => ","
  | blockEntry => "-"
  | key => "?"
  | value => ":"
  | .alias _ => "<alias>"
  | anchor _ => "<anchor>"
  | tag _ => "<tag>"
  | scalar .. => "<scalar>"

/-- A token, where it stands, and the version in force. -/
structure Token where
  kind : TokenKind
  start : Mark
  stop : Mark
  version : Version
  deriving DecidableEq, Inhabited

end YamlAudit.Yaml
