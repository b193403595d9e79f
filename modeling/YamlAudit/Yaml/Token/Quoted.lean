import YamlAudit.Yaml.Cursor
import YamlAudit.Yaml.Fault

/-!
# Yaml — Token — Quoted

Scalars between quotes.  Between single quotes only the quote is special and is written twice;
between double quotes a backslash begins an escape.  White space before a line break is dropped and
so is the indentation behind it; the breaks themselves are folded (`Cursor.joinBreaks`).
-/

namespace YamlAudit.Yaml

/-- The characters that a letter behind a backslash stands for. -/
def namedEscape? : Char → Option Char
  | '0' => some '\x00'
  | 'a' => some '\x07'
  | 'b' => some '\x08'
  | 't' => some '\t'
  | '\t' => some '\t'
  | 'n' => some '\n'
  | 'v' => some '\x0b'
  | 'f' => some '\x0c'
  | 'r' => some '\r'
  | 'e' => some '\x1b'
  | ' ' => some ' '
  | '"' => some '"'
  | '/' => some '/'
  | '\\' => some '\\'
  | 'N' => some '\x85'
  | '_' => some '\u00a0'
  | 'L' => some '\u2028'
  | 'P' => some '\u2029'
  | _ => none

/-- How many hexadecimal digits follow a letter behind a backslash. -/
def escapeWidth? : Char → Option Nat
  | 'x' => some 2
  | 'u' => some 4
  | 'U' => some 8
  | _ => none

/-- Reads `n` hexadecimal digits onto `acc`, or gives the first character that is none. -/
def hexNumber (acc : Nat) : Nat → List Char → Except Char Nat
  | 0, _ => .ok acc
  | n + 1, cs =>
    match hexDigit? (cs.headD '\x00') with
    | some d => hexNumber (16 * acc + d) n cs.tail
    | none => .error (cs.headD '\x00')

/-- Reads the digits of an escape from the cursor on.  Halves of surrogate pairs stay halves. -/
def scanNumericEscape (began : Mark) (width : Nat) (c : Cursor) :
    Except Fault (Char × Cursor) :=
  match hexNumber 0 width c.rest with
  | .error ch => .error (.during .doubleQuotedScalar began (.shortEscape width ch) c.mark)
  | .ok n =>
    if 0x7FFFFFFF < n then .error ⟨.codePointSize, none, none⟩
    else if 0x10FFFF < n then .error ⟨.codePointRange, none, none⟩
    else .ok (charOfCode n, c.skip width)

/-- Goes past blank lines and indentation inside a scalar; the line breaks are kept. -/
def scanQuotedBreaks (began : Mark) : Nat → List Char → Cursor → Except Fault (List Char × Cursor)
  | 0, breaks, c => .ok (breaks, c)
  | fuel + 1, breaks, c =>
    if c.atSeparator then .error (.during .quotedScalar began .separator c.mark)
    else
      match (c.skipWhile isSpaceOrTab).lineBreak with
      | (some b, after) => scanQuotedBreaks began fuel (breaks ++ [b]) after
      | (none, after) => .ok (breaks, after)

/-- Reads white space inside a scalar, with a line break or without. -/
def scanQuotedSpace (began : Mark) (c : Cursor) : Except Fault (List Char × Cursor) :=
  let after := c.skipWhile isSpaceOrTab
  if after.peek == '\x00' then .error (.during .quotedScalar began .endOfStream after.mark)
  else match after.lineBreak with
    | (none, _) => .ok (c.run isSpaceOrTab, after)
    | (first, next) => do
      let (breaks, next) ← scanQuotedBreaks began (next.rest.length + 1) [] next
      .ok (Cursor.joinBreaks first breaks, next)

/-- Reads an escape, the cursor being behind the backslash. -/
def scanEscape (began : Mark) (c : Cursor) : Except Fault (List Char × Cursor) :=
  match namedEscape? c.peek, escapeWidth? c.peek with
  | some ch, _ => .ok ([ch], c.step)
  | none, some width => (scanNumericEscape began width c.step).map fun r => ([r.1], r.2)
  | none, none =>
    if isBreak c.peek then scanQuotedBreaks began (c.rest.length + 1) [] c.lineBreak.2
    else .error (.during .doubleQuotedScalar began (.unknownEscape c.peek) c.mark)

/-- The characters that stand for themselves between quotes of either sort. -/
def isOrdinary (c : Char) : Bool :=
  !(isGap c || c == '\'' || c == '"' || c == '\\')

/-- Reads the content of a scalar up to its closing quote; `rev` holds what was read, backwards. -/
def scanQuotedFrom (double : Bool) (began : Mark) :
    Nat → List Char → Cursor → Except Fault (List Char × Cursor)
  | 0, rev, c => .ok (rev, c)
  | fuel + 1, rev, c =>
    let ch := c.peek
    if isOrdinary ch then
      scanQuotedFrom double began fuel ((c.run isOrdinary).reverse ++ rev) (c.skipWhile isOrdinary)
    else if ch == '\'' then
      if double then scanQuotedFrom double began fuel (ch :: rev) c.step
      else if c.peekAt 1 == '\'' then scanQuotedFrom double began fuel (ch :: rev) (c.skip 2)
      else .ok (rev, c.step)
    else if ch == '"' then
      if double then .ok (rev, c.step) else scanQuotedFrom double began fuel (ch :: rev) c.step
    else if ch == '\\' then
      if double then do
        let (chars, after) ← scanEscape began c.step
        scanQuotedFrom double began fuel (chars.reverse ++ rev) after
      else scanQuotedFrom double began fuel (ch :: rev) c.step
    else do
      let (chars, after) ← scanQuotedSpace began c
      scanQuotedFrom double began fuel (chars.reverse ++ rev) after

/-- Reads a scalar from its opening quote to behind its closing quote. -/
def scanQuoted (double : Bool) (c : Cursor) : Except Fault (String × Cursor) :=
  (scanQuotedFrom double c.mark (c.rest.length + 1) [] c.step).map
    fun r => (String.ofList r.1.reverse, r.2)

end YamlAudit.Yaml
