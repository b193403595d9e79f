import YamlAudit.Pattern.Flaw
import YamlAudit.Text.Identifier

/-!
# Pattern — Reader

The text of a pattern as tokens, and the steps by which it is read.  A token is a character, or a
backslash with the character after it.  A backslash that nothing follows is a flaw as soon as the token
before it has been gone past, whatever else might be wrong there.
-/

namespace YamlAudit

/-- A character of a pattern, or one after a backslash. -/
structure PatternToken where
  char : Char
  escaped : Bool
  position : Nat
  deriving DecidableEq, Repr

namespace PatternToken

/-- Whether a token is that character without a backslash. -/
def is (t : PatternToken) (c : Char) : Bool := !t.escaped && t.char == c

/-- A token as it is written. -/
def text (t : PatternToken) : List Char := if t.escaped then ['\\', t.char] else [t.char]

/-- The tokens of a text whose first character is at position `n`, and whether a backslash with
nothing after it is left. -/
def all (n : Nat) : List Char → List PatternToken × Bool
  | [] => ([], false)
  | ['\\'] => ([], true)
  | '\\' :: c :: rest => let (ts, left) := all (n + 2) rest; (⟨c, true, n⟩ :: ts, left)
  | c :: rest => let (ts, left) := all (n + 1) rest; (⟨c, false, n⟩ :: ts, left)

end PatternToken

/-- How far the reading of a pattern has come. -/
structure PatternReading where
  rest : List PatternToken
  /-- Whether a backslash with nothing after it ends the text. -/
  dangling : Bool
  /-- The length of the text. -/
  size : Nat
  /-- The number of groups begun. -/
  groups : Nat
  /-- The widths of the groups that are complete. -/
  complete : List (Nat × PatternWidth)
  names : List (String × Nat)
  /-- The number of groups begun before the outermost look behind around. -/
  fence : Option Nat
  /-- The groups asked for by conditions, and where. -/
  conditions : List (Nat × Nat)

/-- The reading of a text that has not begun. -/
def PatternReading.start (text : List Char) : PatternReading :=
  let (rest, dangling) := PatternToken.all 0 text
  ⟨rest, dangling, text.length, 0, [], [], none, []⟩

/-- The width of a group, if it is complete. -/
def PatternReading.widthOf (s : PatternReading) (number : Nat) : PatternWidth :=
  (s.complete.lookup number).getD (.exactly 0)

/-- Reads part of a pattern. -/
abbrev PatternReader := EStateM Flaw PatternReading

namespace PatternReader

/-- The position of the next token. -/
def position : PatternReader Nat := do
  let s ← get
  return match s.rest with
    | t :: _ => t.position
    | [] => s.size

/-- The number of tokens left. -/
def left : PatternReader Nat := return (← get).rest.length

/-- The text is wrong at a position. -/
def flaw {α : Type} (cause : FlawCause) (position : Nat) : PatternReader α :=
  throw ⟨cause, some position⟩

/-- The text is wrong where the reading has come to. -/
def flawHere {α : Type} (cause : FlawCause) : PatternReader α := do flaw cause (← position)

/-- What is left may not be a backslash alone. -/
def refuseDangling : PatternReader Unit := do
  let s ← get
  if s.rest.isEmpty && s.dangling then flaw .danglingEscape (s.size - 1)

/-- The next token, which is left where it is. -/
def peek : PatternReader (Option PatternToken) := return (← get).rest.head?

/-- Goes past the next token. -/
def skip : PatternReader Unit := do
  modify fun s => { s with rest := s.rest.tail }
  refuseDangling

/-- The next token. -/
def take : PatternReader (Option PatternToken) := do
  let t ← peek
  skip
  return t

/-- Whether the next token is that character. -/
def sees (c : Char) : PatternReader Bool := return ((← peek).map (·.is c)).getD false

/-- Goes past a character if it is next. -/
def accept (c : Char) : PatternReader Bool := do
  let seen ← sees c
  if seen then skip
  return seen

/-- At most `n` characters of a kind. -/
def takeWhile (has : Char → Bool) : Nat → PatternReader (List Char)
  | 0 => return []
  | n + 1 => do
    match ← peek with
    | some t =>
      if !t.escaped && has t.char then
        skip
        return t.char :: (← takeWhile has n)
      else return []
    | none => return []

/-- The characters up to a closing one, which is gone past, among the next `n` tokens; `read` are
those from `start` on that have been read already. -/
def takeUntilFrom (close : Char) (what : String) (start : Nat) :
    Nat → List Char → PatternReader (List Char)
  | 0, read => return read
  | n + 1, read => do
    match ← take with
    | none =>
      flaw (.missingText (if read.isEmpty then what else close.toString ++ ", unterminated name")) start
    | some t =>
      if t.is close then
        if read.isEmpty then flaw (.missingText what) start
        return read
      else takeUntilFrom close what start n (read ++ t.text)

/-- The characters up to a closing one, which is gone past. -/
def takeUntil (close : Char) (what : String) : PatternReader (List Char) := do
  takeUntilFrom close what (← position) ((← left) + 1) []

/-! ### White space and comments -/

/-- Goes past all of the next `n` tokens up to a character and past that; tells whether it came. -/
def skipPast (c : Char) : Nat → PatternReader Bool
  | 0 => return false
  | n + 1 => do
    match ← take with
    | some t => if t.is c then return true else skipPast c n
    | none => return false

/-- White space between pieces. -/
def isSpacing (c : Char) : Bool := c == ' ' || (0x9 ≤ c.toNat && c.toNat ≤ 0xD)

/-- Goes past white space and comments among the next `n` tokens. -/
def skipSpacing : Nat → PatternReader Unit
  | 0 => return ()
  | n + 1 => do
    match ← peek with
    | some t =>
      if !t.escaped && isSpacing t.char then
        skip
        skipSpacing n
      else if t.is '#' then
        let _ ← skipPast '\n' (← left)
        skipSpacing n
    | none => return ()

/-- Goes past a comment in brackets that began at `start`. -/
def skipComment (start : Nat) : PatternReader Unit := do
  if !(← skipPast ')' (← left)) then flaw .unterminatedComment start

/-! ### Groups -/

/-- Whether a group is complete. -/
def isComplete (number : Nat) : PatternReader Bool :=
  return ((← get).complete.lookup number).isSome

/-- Refuses a group that a look behind around may not refer to. -/
def checkFence (number : Nat) : PatternReader Unit := do
  if let some fence := (← get).fence then
    if !(← isComplete number) then flawHere .openGroup
    if fence < number then flawHere .groupBehind

/-- Refuses a reference from `start` to a group that is not complete or that a look behind around may
not refer to. -/
def checkReference (number start : Nat) : PatternReader Unit := do
  if !(← isComplete number) then flaw .openGroup start
  checkFence number

/-- The name of a group up to a closing character. -/
def groupName (close : Char) : PatternReader String := do
  let start ← position
  let name ← takeUntil close "group name"
  if !isIdentifier name then flaw (.badGroupName (String.ofList name)) start
  return String.ofList name

/-- The number of the group with a name. -/
def groupNamed (name : String) (start : Nat) : PatternReader Nat := do
  match (← get).names.lookup name with
  | some n => return n
  | none => flaw (.unknownGroupName name) start

/-- Begins a group, the name of which starts at a position. -/
def beginGroup (name : Option String) (start : Nat) : PatternReader Nat := do
  let s ← get
  let number := s.groups + 1
  let names ← match name with
    | none => pure s.names
    | some name =>
      match s.names.lookup name with
      | some earlier => flaw (.repeatedGroupName name number earlier) start
      | none => pure ((name, number) :: s.names)
  set { s with groups := number, names }
  return number

/-- No group has this number or a greater one. -/
def groupLimit : Nat := 1073741823

/-- The group that a condition asks for, by its name or its number. -/
def conditionGroup : PatternReader Nat := do
  let start ← position
  let name ← takeUntil ')' "group name"
  let bad : PatternReader Nat := flaw (.badGroupName (String.ofList name)) start
  let number ←
    if isIdentifier name then groupNamed (String.ofList name) start
    else match readNumeral 10 name with
      | .error _ => bad
      | .ok n =>
        if n < 0 then bad
        else if n = 0 then flaw .badGroupNumber start
        else if groupLimit ≤ n.toNat then flaw (.noSuchGroup n.toNat) start
        else
          modify fun s => { s with conditions := s.conditions ++ [(n.toNat, start)] }
          pure n.toNat
  checkFence number
  return number

/-- The width of a pattern, all groups that it refers to being complete. -/
def widthOf (p : Pattern) : PatternReader PatternWidth := return p.width (← get).widthOf

end PatternReader

end YamlAudit
