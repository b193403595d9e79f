import YamlAudit.Source.Location

/-!
# Source — LineTable

From offsets to locations.  Offsets count the characters of a text from zero.  A `LineTable` keeps
the offsets at which the lines of a text start; the line of an offset is the number of line starts
at or before it (`line`), its column the distance from the start of that line (`location`).  Only
`'\n'` ends a line here.  An offset before the text is on line zero, whose column is counted from
the last line of the text.
-/

namespace YamlAudit

/-- The offsets after each line end of `text`, where `text` begins at offset `offset`. -/
def startsAfter (offset : Nat) : List Char → List Nat
  | [] => []
  | c :: rest =>
    if c = '\n' then (offset + 1) :: startsAfter (offset + 1) rest
    else startsAfter (offset + 1) rest

/-- The offsets at which the lines of a text start. -/
structure LineTable where
  starts : List Nat
  deriving DecidableEq, Repr

namespace LineTable

/-- The first line starts at offset zero, every other after a line end. -/
def ofText (text : String) : LineTable := ⟨0 :: startsAfter 0 text.toList⟩

/-- The number of lines that start at or before an offset. -/
def line (t : LineTable) (offset : Int) : Nat :=
  t.starts.countP fun (s : Nat) => decide ((s : Int) ≤ offset)

/-- Where line `n` starts; line zero counts from the start of the last line. -/
def lineStart (t : LineTable) : Nat → Nat
  | 0 => t.starts.getLastD 0
  | n + 1 => t.starts.getD n 0

/-- The line and the column of an offset. -/
def location (t : LineTable) (offset : Int) : Location :=
  let line := t.line offset
  ⟨line, offset - t.lineStart line + 1⟩

/-- The range between two offsets. -/
def range (t : LineTable) (start stop : Int) : Except Reversed Range :=
  Range.of? (t.location start) (t.location stop)

end LineTable

end YamlAudit
