import YamlAudit.Pattern.Reader

/-!
# Pattern — Options

What a pattern means by its characters: whether letters match in any case, where lines begin and end,
what a dot stands for, whether white space counts, and which characters are letters.  Options are
letters behind the question mark of a bracket.  Those in front of a colon belong to the bracket and may
be turned off as well; those in front of the closing bracket belong to the whole pattern.
-/

namespace YamlAudit

/-- What a pattern means by its characters. -/
structure PatternOptions where
  anyCase : Bool
  multiline : Bool
  dotAll : Bool
  /-- White space and comments stand between the pieces. -/
  spaced : Bool
  alphabet : Alphabet
  deriving DecidableEq, Repr, Inhabited

namespace PatternOptions

/-- The options when nothing is said. -/
def default : PatternOptions := ⟨false, false, false, false, .unicode⟩

/-- The letters that are taken in any case. -/
def folding (o : PatternOptions) : Option Alphabet := if o.anyCase then some o.alphabet else none

/-- Turns an option on or off by its letter. -/
def set (on : Bool) (o : PatternOptions) (letter : Char) : PatternOptions :=
  match letter with
  | 'i' => { o with anyCase := on }
  | 'm' => { o with multiline := on }
  | 's' => { o with dotAll := on }
  | 'x' => { o with spaced := on }
  | 'a' => { o with alphabet := .ascii }
  | 'u' => { o with alphabet := .unicode }
  | _ => o

end PatternOptions

/-- Options that have been read, by their letters. -/
inductive OptionLetters where
  /-- Options of the whole pattern. -/
  | whole (on : List Char)
  /-- Options of a bracket. -/
  | bracket (on off : List Char)
  deriving DecidableEq, Repr

/-- The options of a bracket in a place with others. -/
def OptionLetters.change (letters : OptionLetters) (o : PatternOptions) : PatternOptions :=
  match letters with
  | whole on => on.foldl (PatternOptions.set true) o
  | bracket on off => off.foldl (PatternOptions.set false) (on.foldl (PatternOptions.set true) o)

namespace PatternReader

/-- The letters of options. -/
def isOption (c : Char) : Bool := "aiLmstux".toList.contains c

/-- The letters of options that exclude each other. -/
def isAlphabetOption (c : Char) : Bool := "aLu".toList.contains c

/-- The letter of an option that only a whole pattern can have. -/
def wholeOption : Char := 't'

/-- A token that is no option stands where `what` is missing. -/
def notAnOption {α : Type} (t : PatternToken) (what : String) : PatternReader α :=
  flaw (if isLetter t.char && !t.escaped then .unknownFlag else .missingText what) t.position

/-- Options that are turned on, the first of which has been read, and the character after them; at
most `n` more. -/
def optionsOn : Nat → Char → List Char → PatternReader (List Char × Char)
  | 0, c, read => return (read, c)
  | n + 1, c, read => do
    if c == 'L' then flawHere .byteFlag
    if isAlphabetOption c && read.any fun d => isAlphabetOption d && d != c then
      flawHere .incompatibleFlags
    let what := "-, : or )"
    let some t ← take | flawHere (.missingText what)
    if t.is ')' || t.is '-' || t.is ':' then return (read ++ [c], t.char)
    if t.escaped || !isOption t.char then notAnOption t what
    optionsOn n t.char (read ++ [c])

/-- Options that are turned off, the first of which has been read, up to the colon; at most `n`
more. -/
def optionsOff : Nat → Char → List Char → PatternReader (List Char)
  | 0, _, read => return read
  | n + 1, c, read => do
    if isAlphabetOption c then flawHere .fixedFlags
    let some t ← take | flawHere (.missingText ":")
    if t.is ':' then return read ++ [c]
    if t.escaped || !isOption t.char then notAnOption t ":"
    optionsOff n t.char (read ++ [c])

/-- What is wrong with the options before the token that has been read last. -/
def flawBefore {α : Type} (cause : FlawCause) : PatternReader α := do flaw cause ((← position) - 1)

/-- The options of a bracket whose first letter or hyphen has been read. -/
def options (first : Char) : PatternReader OptionLetters := do
  let n := (← left) + 1
  let (on, after) ← if first == '-' then pure ([], '-') else optionsOn n first []
  if after == ')' then return .whole on
  if on.contains wholeOption then flawBefore .wholeFlagOn
  if after != '-' then return .bracket on []
  let some t ← take | flawHere (.missingText "flag")
  if t.escaped || !isOption t.char then notAnOption t "flag"
  let off ← optionsOff n t.char []
  if off.contains wholeOption then flawBefore .wholeFlagOff
  if off.any on.contains then flawBefore .flagOnAndOff
  return .bracket on off

/-- The letters of the options at the beginning of a text that belong to all of it, in at most `n`
brackets or comments. -/
def leadingOptions : Nat → List Char → PatternReader (List Char)
  | 0, letters => return letters
  | n + 1, letters => do
    if letters.contains 'x' then skipSpacing (← left)
    let s ← get
    match s.rest with
    | a :: b :: c :: _ =>
      if !(a.is '(' && b.is '?') then return letters
      skip
      skip
      skip
      if c.is '#' then
        skipComment a.position
        leadingOptions n letters
      else if !c.escaped && (isOption c.char || c.char == '-') then
        match ← options c.char with
        | .whole on => leadingOptions n (letters ++ on)
        | .bracket _ _ =>
          set s
          return letters
      else
        set s
        return letters
    | _ => return letters

end PatternReader

end YamlAudit
