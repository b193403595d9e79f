import YamlAudit.Yaml.Token.Name

/-!
# Yaml — Token — Block

Block scalars: a header behind `|` or `>`, then lines that are indented deeper than the collection
around them.  The header may give the indentation; otherwise the first line that is not blank does.
In a folded scalar (`>`) a line feed between two lines that begin with neither space nor tab is a
space.  What becomes of the line breaks at the end is up to the header (`Chomping`).
-/

namespace YamlAudit.Yaml

/-- What becomes of the line breaks at the end: all are dropped, one is kept, or all are kept. -/
inductive Chomping where
  | strip
  | clip
  | keep
  deriving DecidableEq, Repr, Inhabited

/-- What the header of a block scalar says. -/
structure BlockHeader where
  chomping : Chomping
  increment : Option Nat
  deriving DecidableEq, Repr

/-- The chomping a sign asks for. -/
def Chomping.ofSign? (c : Char) : Option Chomping :=
  if c == '+' then some .keep else if c == '-' then some .strip else none

/-- Reads a digit of a header, if there is one. -/
def scanIncrement (began : Mark) (c : Cursor) : Except Fault (Option Nat × Cursor) :=
  if !isDigit c.peek then .ok (none, c)
  else if c.peek == '0' then .error (.during .blockScalar began .zeroIndent c.mark)
  else .ok (some (c.peek.toNat - '0'.toNat), c.step)

/-- Reads the indicators of a header: a sign and a digit in any order. -/
def scanBlockIndicators (began : Mark) (c : Cursor) : Except Fault (BlockHeader × Cursor) := do
  let (header, after) ← match Chomping.ofSign? c.peek with
    | some chomping =>
      (scanIncrement began c.step).map fun r => (BlockHeader.mk chomping r.1, r.2)
    | none => do
      let (increment, after) ← scanIncrement began c
      match increment, Chomping.ofSign? after.peek with
      | some _, some chomping => .ok (⟨chomping, increment⟩, after.step)
      | _, _ => .ok (⟨.clip, increment⟩, after)
  if isSpaceOrEnd after.peek then .ok (header, after)
  else .error (.during .blockScalar began (.notBlockHeader after.peek) after.mark)

/-- Goes past blank lines and the indentation of a line, at most to the column `indent`; gives the
line breaks and the place behind the last. -/
def scanBlockBreaks (indent : Nat) : Nat → List Char → Mark → Cursor → List Char × Mark × Cursor
  | 0, breaks, stop, c => (breaks, stop, c)
  | fuel + 1, breaks, stop, c =>
    match c.lineBreak with
    | (some b, after) =>
      scanBlockBreaks indent fuel (breaks ++ [b]) after.mark
        (Cursor.skipIndent indent after.mark after.rest)
    | (none, _) => (breaks, stop, c)

/-- Blank lines and indentation from the beginning of a line on. -/
def scanBreaks (indent : Nat) (c : Cursor) : List Char × Mark × Cursor :=
  scanBlockBreaks indent (c.rest.length + 1) [] c.mark (Cursor.skipIndent indent c.mark c.rest)

/-- What was found while looking for the indentation of a block scalar. -/
structure IndentSearch where
  breaks : List Char
  stop : Mark
  /-- The column of the first line break. -/
  first : Option Nat
  /-- The greatest column reached through spaces. -/
  greatest : Nat

/-- Goes past blank lines and all the indentation of the first line that is not blank. -/
def searchIndent : Nat → IndentSearch → Cursor → IndentSearch × Cursor
  | 0, s, c => (s, c)
  | fuel + 1, s, c =>
    if c.peek == ' ' then
      let c := c.step
      searchIndent fuel { s with greatest := max s.greatest c.column } c
    else match c.lineBreak with
      | (some b, after) =>
        searchIndent fuel { s with
          breaks := s.breaks ++ [b]
          stop := after.mark
          first := some (s.first.getD c.column) } after
      | (none, _) => (s, c)

/-- The lines of a block scalar so far, backwards, and the breaks not yet accounted for. -/
structure BlockLines where
  rev : List Char
  lineBreak : Option Char
  breaks : List Char
  stop : Mark

/-- Reads the lines of a block scalar; at the top level a document separator ends it. -/
def scanBlockLines (folded topLevel : Bool) (indent : Nat) :
    Nat → BlockLines → Cursor → BlockLines × Cursor
  | 0, b, c => (b, c)
  | fuel + 1, b, c =>
    if c.column != indent || c.peek == '\x00' then (b, c)
    else
      let line := c.run fun ch => !isLineEnd ch
      let rev := line.reverse ++ (b.breaks.reverse ++ b.rev)
      let (lineBreak, after) := (c.skipWhile fun ch => !isLineEnd ch).lineBreak
      let (breaks, stop, after) := scanBreaks indent after
      if after.column != indent || after.peek == '\x00'
          || (topLevel && after.column == 0 && after.atSeparator) then
        (⟨rev, lineBreak, breaks, stop⟩, after)
      else
        let folds := folded && lineBreak == some '\n' && !isSpaceOrTab c.peek
          && !isSpaceOrTab after.peek
        let rev :=
          if folds then (if breaks.isEmpty then ' ' :: rev else rev)
          else lineBreak.toList ++ rev
        scanBlockLines folded topLevel indent fuel ⟨rev, none, breaks, stop⟩ after

/-- Reads a block scalar from its indicator on, inside a collection of the given indentation; gives
its value, its end and the position behind it. -/
def scanBlockScalar (folded : Bool) (outer : Int) (c : Cursor) :
    Except Fault (String × Mark × Cursor) := do
  let (header, after) ← scanBlockIndicators c.mark c.step
  let after ← finishLine .blockScalar c.mark after
  let least := (outer + 1).toNat
  let (indent, breaks, stop, after) ← match header.increment with
    | some increment =>
      let indent := max least 1 + increment - 1
      let (breaks, stop, after) := scanBreaks indent after
      pure (indent, breaks, stop, after)
    | none =>
      let (s, after) := searchIndent (after.rest.length + 1) ⟨[], after.mark, none, 0⟩ after
      let first := s.first.getD 0
      if 0 < first && first < s.greatest then .error (.bare .overIndented after.mark)
      else pure (max least s.greatest, s.breaks, s.stop, after)
  let topLevel := least == 0 && header.increment.isNone
  let (b, after) :=
    scanBlockLines folded topLevel indent (after.rest.length + 1) ⟨[], none, breaks, stop⟩ after
  let ending := match header.chomping with
    | .strip => []
    | .clip => b.lineBreak.toList
    | .keep => b.lineBreak.toList ++ b.breaks
  return (String.ofList (b.rev.reverse ++ ending), b.stop, after)

end YamlAudit.Yaml
