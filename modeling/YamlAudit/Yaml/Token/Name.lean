import YamlAudit.Yaml.Cursor
import YamlAudit.Yaml.Fault

/-!
# Yaml — Token — Name

Anchors, aliases, tags and directives: the tokens that are names.  Each function starts on the
indicator of its token and gives what it read with the position behind it, or the first fault.
-/

namespace YamlAudit.Yaml

/-- Reads the name of an anchor or an alias behind its indicator. -/
def scanAnchorName (activity : Activity) (c : Cursor) : Except Fault (String × Cursor) :=
  let name := c.step.run isAnchorChar
  let after := c.step.skipWhile isAnchorChar
  if name.isEmpty || !mayFollowAnchor after.peek then
    .error (.during activity c.mark (.notNameChar after.peek) after.mark)
  else .ok (String.ofList name, after)

/-! ### Tags -/

/-- A byte written as two hexadecimal digits behind a percent sign. -/
def escapedByte? (c : Cursor) : Option UInt8 :=
  match hexDigit? (c.peekAt 1), hexDigit? (c.peekAt 2) with
  | some high, some low => some (UInt8.ofNat (16 * high + low))
  | _, _ => none

/-- The first of the two characters behind a percent sign that is no digit. -/
def undigit (c : Cursor) : Char :=
  if (hexDigit? (c.peekAt 1)).isSome then c.peekAt 2 else c.peekAt 1

/-- Reads escaped bytes one after another; they have to be text. -/
def scanUriEscapes (place : TagPlace) (began first : Mark) :
    Nat → List UInt8 → Cursor → Except Fault (List Char × Cursor)
  | 0, _, c => .ok ([], c)
  | fuel + 1, bytes, c =>
    if c.peek == '%' then
      match escapedByte? c with
      | some b => scanUriEscapes place began first fuel (bytes ++ [b]) (c.skip 3)
      | none => .error (.during (.handle place) began (.shortUriEscape (undigit c)) c.step.mark)
    else match decodeUtf8 bytes with
      | .ok text => .ok (text, c)
      | .error fault => .error (.during (.handle place) began (.undecodableUri fault) first)

/-- Reads the characters of a tag and the escaped ones among them. -/
def scanUriFrom (place : TagPlace) (numberSign : Bool) (began : Mark) :
    Nat → List Char → Cursor → Except Fault (List Char × Cursor)
  | 0, acc, c => .ok (acc, c)
  | fuel + 1, acc, c =>
    if !isTagChar numberSign c.peek then .ok (acc, c)
    else if c.peek == '%' then do
      let (text, after) ← scanUriEscapes place began c.mark (c.rest.length + 1) [] c
      scanUriFrom place numberSign began fuel (acc ++ text) after
    else scanUriFrom place numberSign began fuel (acc ++ [c.peek]) c.step

/-- Reads the characters of a tag, at least one. -/
def scanUri (place : TagPlace) (numberSign : Bool) (began : Mark) (c : Cursor) :
    Except Fault (String × Cursor) := do
  let (chars, after) ← scanUriFrom place numberSign began (c.rest.length + 1) [] c
  if chars.isEmpty then
    .error (.during (.uri place) began (.notUri after.peek) after.mark)
  else .ok (String.ofList chars, after)

/-- Reads a tag handle: `!`, `!!`, or a name between two exclamation marks. -/
def scanHandle (place : TagPlace) (began : Mark) (c : Cursor) : Except Fault (String × Cursor) :=
  if c.peek != '!' then .error (.during (.handle place) began (.notHandle c.peek) c.mark)
  else if c.peekAt 1 == ' ' then .ok ("!", c.step)
  else
    let name := c.step.run isHandleChar
    let after := c.step.skipWhile isHandleChar
    if after.peek == '!' then .ok ("!" ++ String.ofList name ++ "!", after.step)
    else .error (.during (.handle place) began (.unclosedHandle after.peek) after.mark)

/-- Reads the name of a tag from the last of its leading exclamation marks on; without a handle of
its own it has the handle `short`. -/
def scanTagFrom (numberSign : Bool) (began : Mark) (short : String) (c : Cursor) :
    Except Fault (TagName × Cursor) :=
  if c.peekAt 1 == '<' then do
    let (suffix, after) ← scanUri .node numberSign began (c.skip 2)
    if after.peek == '>' then .ok (⟨none, suffix⟩, after.step)
    else .error (.during .verbatimTag began (.unclosedTag after.peek) after.mark)
  else if isGap (c.peekAt 1) then .ok (⟨none, short⟩, c.step)
  else do
    let ahead := c.step.run fun ch => !isSpaceOrEnd ch
    let (handle, after) ←
      if ahead.contains '!' then scanHandle .node began c else .ok (short, c.step)
    let (suffix, after) ← scanUri .node numberSign began after
    .ok (⟨some handle, suffix⟩, after)

/-- Reads the name of a tag, without regard to what follows.  A second exclamation mark takes the
place of the first. -/
def scanTagName (numberSign : Bool) (c : Cursor) : Except Fault (TagName × Cursor) :=
  if c.peekAt 1 == '!' then scanTagFrom numberSign c.mark "!!" c.step
  else scanTagFrom numberSign c.mark "!" c

/-- Reads a tag; a space or the end of the line has to follow. -/
def scanTag (numberSign : Bool) (c : Cursor) : Except Fault (TagName × Cursor) := do
  let (name, after) ← scanTagName numberSign c
  if isSpaceOrEnd after.peek then .ok (name, after)
  else .error (.during .tag c.mark (.notSpace after.peek) after.mark)

/-! ### Directives -/

/-- Reads a number of a version. -/
def scanVersionNumber (began : Mark) (c : Cursor) : Except Fault (Nat × Cursor) :=
  let digits := c.run isDigit
  if digits.isEmpty then
    .error (.during .directive began (.notVersionDigit c.peek) c.mark)
  else
    .ok (digits.foldl (fun n d => 10 * n + (d.toNat - '0'.toNat)) 0, c.skipWhile isDigit)

/-- Reads a version: two numbers with a point between them. -/
def scanVersion (began : Mark) (c : Cursor) : Except Fault (Version × Cursor) := do
  let (major, c) ← scanVersionNumber began (c.skipWhile (· == ' '))
  if c.peek != '.' then .error (.during .directive began (.notVersionPart c.peek) c.mark)
  else do
    let (minor, c) ← scanVersionNumber began c.step
    if isSpaceOrEnd c.peek then .ok ((major, minor), c)
    else .error (.during .directive began (.notVersionPart c.peek) c.mark)

/-- Reads the handle of a tag directive and what it stands for. -/
def scanTagPrefix (numberSign : Bool) (began : Mark) (c : Cursor) :
    Except Fault (DirectiveContent × Cursor) := do
  let (handle, c) ← scanHandle .directive began (c.skipWhile (· == ' '))
  if c.peek != ' ' then .error (.during .directive began (.notSpace c.peek) c.mark)
  else do
    let (replacement, c) ← scanUri .directive numberSign began (c.skipWhile (· == ' '))
    if isSpaceOrEnd c.peek then .ok (.tagPrefix handle replacement, c)
    else .error (.during .directive began (.notSpace c.peek) c.mark)

/-- Reads a directive up to the end of its content; an unknown one reaches to the end of its line. -/
def scanDirective (numberSign : Bool) (c : Cursor) :
    Except Fault (DirectiveContent × Cursor) :=
  let name := c.step.run isDirectiveChar
  let after := c.step.skipWhile isDirectiveChar
  if name.isEmpty || !isSpaceOrEnd after.peek then
    .error (.during .directive c.mark (.notNameChar after.peek) after.mark)
  else if name == ['Y', 'A', 'M', 'L'] then
    (scanVersion c.mark after).map fun r => (.version r.1, r.2)
  else if name == ['T', 'A', 'G'] then scanTagPrefix numberSign c.mark after
  else .ok (.other, after)

/-- Goes past spaces, a comment and the end of the line, which nothing else may come before. -/
def finishLine (activity : Activity) (began : Mark) (c : Cursor) : Except Fault Cursor :=
  let c := c.skipWhile (· == ' ')
  let c := if c.peek == '#' then c.skipWhile (fun ch => !isLineEnd ch) else c
  if isLineEnd c.peek then .ok c.lineBreak.2
  else .error (.during activity began (.notLineEnd c.peek) c.mark)

/-- Goes past the rest of the line of a directive. -/
def finishDirective (began : Mark) (content : DirectiveContent) (c : Cursor) :
    Except Fault Cursor :=
  match content with
  | .other => finishLine .directive began (c.skipWhile fun ch => !isLineEnd ch)
  | _ => finishLine .directive began c

end YamlAudit.Yaml
