import YamlAudit.Pattern.Options
import YamlAudit.Text.CharacterName

/-!
# Pattern — Escape

What a backslash and the character after it mean: a character by its code or its name, a class of
characters, or, outside of sets, a place or a group that has matched.
-/

namespace YamlAudit.PatternReader

/-! ### Codes -/

/-- Octal digits. -/
def isOctal (c : Char) : Bool := '0' ≤ c && c ≤ '7'

/-- The number that digits stand for. -/
def numberIn (base : Nat) (ds : List Char) : Nat :=
  ds.foldl (fun n d => base * n + (hexDigit? d).getD 0) 0

/-- An escape as it is written. -/
def escapeText (t : PatternToken) (more : List Char) : String := String.ofList (t.text ++ more)

/-- The least number that is too large for the code of an escape to be looked at. -/
def escapeLimit : Nat := 0x80000000

/-- The code point of an escape with a fixed number of hexadecimal digits. -/
def hexEscape (t : PatternToken) (width : Nat) : PatternReader Nat := do
  let ds ← takeWhile (fun c => (hexDigit? c).isSome) width
  let text := escapeText t ds
  if ds.length ≠ width then flaw (.incompleteEscape text) t.position
  let n := numberIn 16 ds
  if escapeLimit ≤ n then throw ⟨.codeTooLarge, none⟩
  if 0x10FFFF < n then flaw (.badEscape text) t.position
  return n

/-- The code point of an octal escape whose digits after the first have been read. -/
def octalEscape (t : PatternToken) (more : List Char) : PatternReader Nat := do
  let n := numberIn 8 (t.char :: more)
  if 0o377 < n then flaw (.octalRange (escapeText t more)) t.position
  return n

/-- The code point of a character by its name. -/
def namedEscape (t : PatternToken) : PatternReader Nat := do
  if !(← accept '\x7b') then flawHere .noCharacterName
  let name ← takeUntil '\x7d' "character name"
  if name.any fun c => isSurrogate (codePoint c) then
    flaw (.badEscape (escapeText t [])) ((← position) - t.text.length)
  match characterNamed? name with
  | some n => return n
  | none => flaw (.undefinedCharacter (String.ofList name)) t.position

/-- The control characters with letters of their own. -/
def controlCode? (c : Char) : Option Nat :=
  match c with
  | 'a' => some 0x7
  | 'f' => some 0xC
  | 'n' => some 0xA
  | 'r' => some 0xD
  | 't' => some 0x9
  | 'v' => some 0xB
  | '\\' => some 0x5C
  | _ => none

/-- The code point of an escape that means the same everywhere. -/
def commonEscape (t : PatternToken) : PatternReader Nat := do
  match t.char with
  | 'x' => hexEscape t 2
  | 'u' => hexEscape t 4
  | 'U' => hexEscape t 8
  | 'N' => namedEscape t
  | c =>
    if c.isAlphanum then flaw (.badEscape (escapeText t [])) t.position
    return codePoint c

/-! ### Classes -/

/-- The class that a letter stands for. -/
def classOf? (alphabet : Alphabet) (c : Char) : Option CharItem :=
  match c with
  | 'd' => some (.kind .digit alphabet false)
  | 'D' => some (.kind .digit alphabet true)
  | 's' => some (.kind .space alphabet false)
  | 'S' => some (.kind .space alphabet true)
  | 'w' => some (.kind .word alphabet false)
  | 'W' => some (.kind .word alphabet true)
  | _ => none

/-- An escape inside a set of characters. -/
def setEscape (o : PatternOptions) (t : PatternToken) : PatternReader CharItem := do
  if t.char == 'b' then return .code 0x8
  if let some n := controlCode? t.char then return .code n
  if let some item := classOf? o.alphabet t.char then return item
  if isOctal t.char then return .code (← octalEscape t (← takeWhile isOctal 2))
  return .code (← commonEscape t)

/-! ### Outside of sets -/

/-- An escape that begins with a digit from one on: an octal code of three digits, or a group. -/
def digitEscape (o : PatternOptions) (t : PatternToken) : PatternReader Pattern := do
  let second ← takeWhile Char.isDigit 1
  let third ←
    if isOctal t.char && !second.isEmpty && second.all isOctal then takeWhile isOctal 1 else pure []
  if !third.isEmpty then return .one (.single (← octalEscape t (second ++ third)) o.folding)
  let number := numberIn 10 (t.char :: second)
  if (← get).groups < number then flaw (.noSuchGroup number) (t.position + 1)
  checkReference number t.position
  return .again number o.folding

/-- The place that a letter stands for. -/
def placeOf? (alphabet : Alphabet) (c : Char) : Option PatternPlace :=
  match c with
  | 'A' => some .textStart
  | 'Z' => some .textEnd
  | 'b' => some (.wordEdge alphabet false)
  | 'B' => some (.wordEdge alphabet true)
  | _ => none

/-- An escape outside of sets that is no place. -/
def escape (o : PatternOptions) (t : PatternToken) : PatternReader Pattern := do
  if let some n := controlCode? t.char then return .one (.single n o.folding)
  if let some item := classOf? o.alphabet t.char then return .one ⟨[item], false, o.folding⟩
  if t.char == '0' then return .one (.single (← octalEscape t (← takeWhile isOctal 2)) o.folding)
  if t.char.isDigit then digitEscape o t
  else return .one (.single (← commonEscape t) o.folding)

/-! ### Sets -/

/-- A single member of a set. -/
def setMember (o : PatternOptions) (t : PatternToken) : PatternReader CharItem :=
  if t.escaped then setEscape o t else return .code (codePoint t.char)

/-- The members of a set up to its closing bracket, from the one that starts at `start`; `read` have
been read already, and at most `n` follow. -/
def setItems (o : PatternOptions) (start : Nat) : Nat → List CharItem → PatternReader (List CharItem)
  | 0, read => return read
  | n + 1, read => do
    let some t ← take | flaw .unterminatedSet start
    if t.is ']' && !read.isEmpty then return read
    let first ← setMember o t
    if !(← accept '-') then setItems o start n (read ++ [first])
    else
      let some u ← take | flaw .unterminatedSet start
      if u.is ']' then return read ++ [first, .code 0x2D]
      let last ← setMember o u
      let bad : PatternReader (List CharItem) := do
        flaw (.badRange (String.ofList t.text) (String.ofList u.text))
          ((← position) - (t.text.length + 1 + u.text.length))
      match first, last with
      | .code a, .code b => if b < a then bad else setItems o start n (read ++ [.range a b])
      | _, _ => bad

/-- A set of characters after its opening bracket at `start`. -/
def charSet (o : PatternOptions) (start : Nat) : PatternReader Pattern := do
  let negated ← accept '^'
  let items ← setItems o start ((← left) + 1) []
  return .one ⟨items.eraseDups, negated, o.folding⟩

end YamlAudit.PatternReader
