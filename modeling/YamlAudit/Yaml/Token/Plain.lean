import YamlAudit.Yaml.Cursor

/-!
# Yaml — Token — Plain

Scalars without quotes.  A colon ends one only before a gap, a number sign only behind white space;
inside brackets the flow indicators end it too.  In the old version the question mark is one of
them.  Over several lines the breaks are folded, and a line that is indented less than the scalar has
to be ends it.
-/

namespace YamlAudit.Yaml

/-- The characters of a plain scalar up to the next white space or the end of the scalar. -/
def plainChars (flow old : Bool) : List Char → List Char
  | [] => []
  | ch :: rest =>
    if ch == ':' && !isGap (rest.headD '\x00') then ch :: plainChars flow old rest
    else if ch == '?' && !old then ch :: plainChars flow old rest
    else if isGap ch || ch == ':' || (flow && (isFlowIndicator ch || ch == '?')) then []
    else ch :: plainChars flow old rest

/-- White space after a part of a plain scalar. -/
structure PlainGap where
  /-- What it stands for; nothing when the scalar cannot go on. -/
  chars : List Char
  hasBreak : Bool
  after : Cursor

/-- Goes past blank lines and indentation; a document separator gives nothing. -/
def scanPlainBreaks : Nat → List Char → Cursor → Option (List Char) × Cursor
  | 0, breaks, c => (some breaks, c)
  | fuel + 1, breaks, c =>
    if c.atSeparator then (none, c)
    else
      match (c.skipWhile (· == ' ')).lineBreak with
      | (some b, after) => scanPlainBreaks fuel (breaks ++ [b]) after
      | (none, after) => (some breaks, after)

/-- Reads the white space after a part of a plain scalar. -/
def scanPlainGap (c : Cursor) : PlainGap :=
  let after := c.skipWhile (· == ' ')
  match after.lineBreak with
  | (none, _) => ⟨c.run (· == ' '), false, after⟩
  | (first, next) =>
    match scanPlainBreaks (next.rest.length + 1) [] next with
    | (none, next) => ⟨[], true, next⟩
    | (some breaks, next) => ⟨Cursor.joinBreaks first breaks, true, next⟩

/-- A plain scalar as it was read. -/
structure PlainScalar where
  /-- Its characters, backwards. -/
  rev : List Char
  stop : Mark
  /-- Whether a line break lies between the scalar and what follows. -/
  hasBreak : Bool
  after : Cursor

/-- Reads the parts of a plain scalar, where `gap` is the white space before the next. -/
def scanPlainFrom (flow old : Bool) (least : Int) :
    Nat → List Char → PlainScalar → PlainScalar
  | 0, _, s => s
  | fuel + 1, gap, s =>
    let c := s.after
    let chars := plainChars flow old c.rest
    if c.peek == '#' || chars.isEmpty then s
    else
      let rev := chars.reverse ++ (gap.reverse ++ s.rev)
      let after := c.skip chars.length
      let next := scanPlainGap after
      let s := ⟨rev, after.mark, next.hasBreak, next.after⟩
      if next.chars.isEmpty || next.after.peek == '#'
          || (!flow && (next.after.column : Int) < least) then s
      else scanPlainFrom flow old least fuel next.chars s

/-- Reads a plain scalar; outside of brackets its further lines are indented by `least` at least. -/
def scanPlain (flow old : Bool) (least : Int) (c : Cursor) : PlainScalar :=
  scanPlainFrom flow old least (c.rest.length + 1) [] ⟨[], c.mark, false, c⟩

end YamlAudit.Yaml
