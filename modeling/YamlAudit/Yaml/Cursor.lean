import YamlAudit.Yaml.Mark

/-!
# Yaml — Cursor

A reading position: a mark and the characters from there on.  All steps go forward, so the mark is
always the one of the characters left (`Cursor.step`); at the end of the text steps stay where they
are and the next character is NUL.
-/

namespace YamlAudit.Yaml

/-- A mark and the text behind it. -/
structure Cursor where
  mark : Mark
  rest : List Char
  deriving Inhabited

namespace Cursor

/-- The beginning of a text. -/
def start (source : List Char) : Cursor := ⟨.start source, source⟩

/-- The next character. -/
def peek (c : Cursor) : Char := c.rest.headD '\x00'

/-- The character `n` places further on. -/
def peekAt (c : Cursor) (n : Nat) : Char := c.rest.getD n '\x00'

/-- The column of the next character. -/
def column (c : Cursor) : Nat := c.mark.column

/-- Goes past one character. -/
def step (c : Cursor) : Cursor :=
  match c.rest with
  | [] => c
  | ch :: rest => ⟨c.mark.past ch rest.head?, rest⟩

/-- Goes past `n` characters. -/
def skip (c : Cursor) : Nat → Cursor
  | 0 => c
  | n + 1 => c.step.skip n

/-- Goes past the characters of a class, the text behind `mark` being `rest`. -/
def skipFrom (p : Char → Bool) (mark : Mark) : List Char → Cursor
  | [] => ⟨mark, []⟩
  | c :: rest => if p c then skipFrom p (mark.past c rest.head?) rest else ⟨mark, c :: rest⟩

/-- Goes past all characters of a class. -/
def skipWhile (p : Char → Bool) (c : Cursor) : Cursor := skipFrom p c.mark c.rest

/-- The characters of a class that come next. -/
def run (p : Char → Bool) (c : Cursor) : List Char := c.rest.takeWhile p

/-- Goes past spaces, up to the column `limit`. -/
def skipIndent (limit : Nat) (mark : Mark) : List Char → Cursor
  | [] => ⟨mark, []⟩
  | c :: rest =>
    if c == ' ' && mark.column < limit then skipIndent limit (mark.past c rest.head?) rest
    else ⟨mark, c :: rest⟩

/-- Whether `---` or `...` comes next, with a gap behind it. -/
def atSeparator (c : Cursor) : Bool :=
  (c.rest.take 3 == ['-', '-', '-'] || c.rest.take 3 == ['.', '.', '.']) && isGap (c.peekAt 3)

/-- Goes past a line break.  It reads as a line feed, unless it is one of the Unicode separators,
which stand for themselves; without a break nothing is read. -/
def lineBreak (c : Cursor) : Option Char × Cursor :=
  match c.rest with
  | '\r' :: '\n' :: _ => (some '\n', c.skip 2)
  | ch :: _ =>
    if ch == '\u2028' || ch == '\u2029' then (some ch, c.step)
    else if isBreak ch then (some '\n', c.step)
    else (none, c)
  | [] => (none, c)

/-- The text that line breaks inside a scalar stand for: a single line feed is a space, of several
the first line feed is dropped. -/
def joinBreaks (first : Option Char) (others : List Char) : List Char :=
  match first with
  | none => others
  | some '\n' => if others.isEmpty then [' '] else others
  | some c => c :: others

end Cursor

end YamlAudit.Yaml
