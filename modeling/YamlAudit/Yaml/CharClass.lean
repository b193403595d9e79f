import YamlAudit.Text.CodePoint

/-!
# Yaml — CharClass

The classes of characters that the grammar of YAML is written with.  The end of a text counts as the
character NUL, which no text may hold (`isAdmissible`).
-/

namespace YamlAudit.Yaml

/-- The characters a text may be made of. -/
def isAdmissible (c : Char) : Bool :=
  let n := codePoint c
  n == 0x9 || n == 0xA || n == 0xD || (0x20 ≤ n && n ≤ 0x7E) || n == 0x85
    || (0xA0 ≤ n && n ≤ 0xD7FF) || (0xE000 ≤ n && n ≤ 0xFFFD) || 0x10000 ≤ n

/-- The characters that end a line. -/
def isBreak (c : Char) : Bool :=
  c == '\n' || c == '\r' || c == '\x85' || c == '\u2028' || c == '\u2029'

/-- The end of a line or of the text. -/
def isLineEnd (c : Char) : Bool := isBreak c || c == '\x00'

/-- A space, or the end of a line or of the text. -/
def isSpaceOrEnd (c : Char) : Bool := c == ' ' || isLineEnd c

/-- A space or a tab. -/
def isSpaceOrTab (c : Char) : Bool := c == ' ' || c == '\t'

/-- Where an indicator such as `-` or `:` may end. -/
def isGap (c : Char) : Bool := isSpaceOrTab c || isLineEnd c

/-- The decimal digits. -/
def isDigit (c : Char) : Bool := '0' ≤ c && c ≤ '9'

/-- Letters and digits of ASCII. -/
def isLetterOrDigit (c : Char) : Bool :=
  isDigit c || ('A' ≤ c && c ≤ 'Z') || ('a' ≤ c && c ≤ 'z')

/-- The brackets of the flow style and the comma between their entries. -/
def isFlowIndicator (c : Char) : Bool :=
  c == ',' || c == '[' || c == ']' || c == '{' || c == '}'

/-- The characters of the name of an anchor. -/
def isAnchorChar (c : Char) : Bool :=
  let n := c.toNat
  !isFlowIndicator c && ((0x21 ≤ n && n ≤ 0x7E) || (0xA0 ≤ n && n ≤ 0xD7FF)
    || (0xE000 ≤ n && n ≤ 0xFFFD && n != 0xFEFF) || 0x10000 ≤ n)

/-- What may follow the name of an anchor. -/
def mayFollowAnchor (c : Char) : Bool :=
  isGap c || isFlowIndicator c || c == '?' || c == ':' || c == '%' || c == '@' || c == '\x60'

/-- The characters of the name of a directive. -/
def isDirectiveChar (c : Char) : Bool :=
  isLetterOrDigit c || c == '-' || c == '_' || c == ':' || c == '.'

/-- The characters between the exclamation marks of a tag handle. -/
def isHandleChar (c : Char) : Bool := isLetterOrDigit c || c == '-' || c == '_'

/-- The characters of a tag, escapes included; the number sign is one from version 1.2 on. -/
def isTagChar (numberSign : Bool) (c : Char) : Bool :=
  isLetterOrDigit c || "-;/?:@&=+$,_.!~*'()[]%".toList.contains c || (numberSign && c == '#')

/-- The characters that no plain scalar begins with. -/
def isIndicator (c : Char) : Bool :=
  isFlowIndicator c || "-?:#&*!|>'\"%@\x60".toList.contains c

end YamlAudit.Yaml
