import YamlAudit.Yaml.CharClass

/-!
# Yaml — Mark

Places in a text as faults report them.  A `Mark` knows the text it points into, its offset, and its
line and column, both counted from zero here and from one in print.  `Mark.text` shows the line it
points into with a caret below it; of a long line only the part around the mark is shown.
-/

namespace YamlAudit.Yaml

/-- A place in a text. -/
structure Mark where
  source : List Char
  index : Nat
  line : Nat
  column : Nat
  deriving DecidableEq, Inhabited

namespace Mark

/-- The beginning of a text. -/
def start (source : List Char) : Mark := ⟨source, 0, 0, 0⟩

/-- The place behind the character `c`, which `following` comes after.  Lines are counted by line
feeds and carriage returns only; the other breaks take up a column. -/
def past (m : Mark) (c : Char) (following : Option Char) : Mark :=
  if c == '\n' || (c == '\r' && following != some '\n') then
    { m with index := m.index + 1, line := m.line + 1, column := 0 }
  else if c == '\uFEFF' then { m with index := m.index + 1 }
  else { m with index := m.index + 1, column := m.column + 1 }

/-- Up to so many characters on either side of a mark are shown. -/
def reach : Nat := 36

/-- How much of a long side is given up for the dots. -/
def giveUp : Nat := 5

/-- The characters of one side of a mark, the nearest first, and whether dots stand for more. -/
def side (line : List Char) : List Char × Bool :=
  if reach < line.length then (line.take (reach + 1 - giveUp), true) else (line, false)

/-- The line of a mark, and a caret below the mark. -/
def snippet (m : Mark) : String :=
  let before := (m.source.take m.index).reverse.takeWhile (fun c => !isLineEnd c)
  let after := (m.source.drop m.index).takeWhile (fun c => !isLineEnd c)
  let (left, cutLeft) := side before
  let (right, cutRight) := side after
  let dots (cut : Bool) : String := if cut then " ... " else ""
  let blanks := 4 + (dots cutLeft).length + left.length
  "    " ++ dots cutLeft ++ String.ofList left.reverse ++ String.ofList right ++ dots cutRight ++ "\n"
    ++ String.ofList (List.replicate blanks ' ') ++ "^ (line: " ++ toString (m.line + 1) ++ ")"

/-- A mark as faults show it. -/
def text (m : Mark) : String :=
  "  in \"<unicode string>\", line " ++ toString (m.line + 1) ++ ", column "
    ++ toString (m.column + 1) ++ ":\n" ++ m.snippet

/-- Two marks of the same line and column are shown once. -/
def sameSpot (a b : Mark) : Bool := a.line == b.line && a.column == b.column

end Mark

end YamlAudit.Yaml
