import YamlAudit.Yaml.Token.Quoted
import YamlAudit.Yaml.Token.Block
import YamlAudit.Yaml.Token.Plain

/-!
# Yaml — Token — Lexer

From a text to its tokens.  Two things are found out only in hindsight.  A mapping key is written
without an indicator and known by the colon behind it, so a token that may be a key is remembered
(`SimpleKey`) and held back with all behind it until the colon comes or can no longer come.  Block
collections begin and end with the indentation of lines.

A run (`Token.run`) gives the tokens in order up to the first fault.  Tokens that are held back when
a fault shows are not part of it: no one can have seen them.
-/

namespace YamlAudit.Yaml

/-- A token that may turn out to be a mapping key. -/
structure SimpleKey where
  /-- The number of the token, counted from the beginning of the text. -/
  number : Nat
  /-- A key is the only thing the token can be. -/
  required : Bool
  mark : Mark
  deriving Inhabited

/-- The two kinds of bracket. -/
inductive Bracket where
  | square
  | curly
  deriving DecidableEq, Repr, Inhabited

/-- An open bracket, and the key that was possible outside of it. -/
structure OpenBracket where
  bracket : Bracket
  outerKey : Option SimpleKey
  deriving Inhabited

/-- How far the reading of tokens has come. -/
structure Lexer where
  cursor : Cursor
  version : Version
  /-- The version that a directive gives the next document. -/
  declared : Option Version
  /-- The version in force from the next token on. -/
  upcoming : Option Version
  /-- The open brackets, the innermost first. -/
  brackets : List OpenBracket
  /-- The key that is possible inside the innermost bracket. -/
  key : Option SimpleKey
  /-- Whether a token that begins here may be a key. -/
  keyAllowed : Bool
  /-- The column of the innermost block collection, minus one outside of all. -/
  indent : Int
  /-- The columns around it, the innermost first. -/
  outerIndents : List Int
  /-- The number of tokens given away. -/
  taken : Nat
  /-- Tokens that are held back, in order. -/
  queue : List Token
  finished : Bool
  deriving Inhabited

/-- A fault, and the version in force when it showed. -/
structure Halt where
  fault : Fault
  version : Version

/-- The tokens of a text, up to a fault if there is one. -/
structure TokenRun where
  tokens : List Token
  halt : Option Halt

namespace Lexer

/-- The beginning of a text. -/
def start (version : Version) (source : List Char) : Lexer where
  cursor := .start source
  version := version
  declared := none
  upcoming := none
  brackets := []
  key := none
  keyAllowed := true
  indent := -1
  outerIndents := []
  taken := 0
  queue := []
  finished := false

/-- Whether the cursor is between brackets. -/
def inFlow (s : Lexer) : Bool := !s.brackets.isEmpty

/-- Adds a token at the end. -/
def push (s : Lexer) (kind : TokenKind) (start stop : Mark) : Lexer :=
  { s with queue := s.queue ++ [⟨kind, start, stop, s.version⟩] }

/-- Adds a token for the next `n` characters. -/
def pushIndicator (s : Lexer) (kind : TokenKind) (n : Nat) : Lexer :=
  let after := s.cursor.skip n
  { s.push kind s.cursor.mark after.mark with cursor := after }

/-- Adds a token in front of the one with the given number. -/
def insert (s : Lexer) (number : Nat) (kind : TokenKind) (mark : Mark) : Lexer :=
  let k := number - s.taken
  { s with queue := s.queue.take k ++ ⟨kind, mark, mark, s.version⟩ :: s.queue.drop k }

/-! ### Possible keys -/

/-- How long a key may be. -/
def keyReach : Nat := 1024

/-- A key has to stand on one line and may not be too long. -/
def isStale (c : Cursor) (key : SimpleKey) : Bool :=
  key.mark.line != c.mark.line || keyReach < c.mark.index - key.mark.index

/-- The fault of a key whose colon is missing. -/
def missingColon (c : Cursor) (key : SimpleKey) : Fault :=
  .during .simpleKey key.mark .missingColon c.mark

/-- A possible key that is still possible; a required one has to be. -/
def refresh (c : Cursor) : Option SimpleKey → Except Fault (Option SimpleKey)
  | none => .ok none
  | some key =>
    if !isStale c key then .ok (some key)
    else if key.required then .error (missingColon c key)
    else .ok none

/-- The open brackets without the keys that are no longer possible. -/
def refreshBrackets (c : Cursor) : List OpenBracket → Except Fault (List OpenBracket)
  | [] => .ok []
  | b :: rest => do
    let key ← refresh c b.outerKey
    let rest ← refreshBrackets c rest
    return { b with outerKey := key } :: rest

/-- Forgets the keys that are no longer possible. -/
def dropStale (s : Lexer) : Except Fault Lexer := do
  let key ← refresh s.cursor s.key
  let brackets ← refreshBrackets s.cursor s.brackets
  return { s with key, brackets }

/-- Forgets the possible key inside the innermost bracket, which may not be a required one. -/
def dropKey (s : Lexer) : Except Fault Lexer :=
  match s.key with
  | none => .ok s
  | some key =>
    if key.required then .error (missingColon s.cursor key) else .ok { s with key := none }

/-- Remembers that the next token may be a key. -/
def saveKey (s : Lexer) : Except Fault Lexer :=
  if !s.keyAllowed then .ok s
  else do
    let required := !s.inFlow && s.indent == (s.cursor.column : Int)
    let s ← s.dropKey
    return { s with key := some ⟨s.taken + s.queue.length, required, s.cursor.mark⟩ }

/-! ### Indentation -/

/-- Ends the block collections that are indented deeper than `column`. -/
def unwindFrom (column : Int) (mark : Mark) (version : Version) (indent : Int) :
    List Int → List Token × Int × List Int
  | [] => ([], indent, [])
  | outer :: rest =>
    if indent ≤ column then ([], indent, outer :: rest)
    else
      let (tokens, result) := unwindFrom column mark version outer rest
      (⟨.blockEnd, mark, mark, version⟩ :: tokens, result)

/-- Ends the block collections deeper than `column`; between brackets indentation has no meaning. -/
def unwind (s : Lexer) (column : Int) : Lexer :=
  if s.inFlow then s
  else
    let (tokens, indent, outerIndents) :=
      unwindFrom column s.cursor.mark s.version s.indent s.outerIndents
    { s with queue := s.queue ++ tokens, indent, outerIndents }

/-- Enters a block collection if `column` is deeper than the innermost one. -/
def deepen? (s : Lexer) (column : Nat) : Option Lexer :=
  if s.indent < column then
    some { s with outerIndents := s.indent :: s.outerIndents, indent := column }
  else none

/-- Begins a block collection at the cursor if it is indented deeper than the innermost one. -/
def openBlock (s : Lexer) (kind : TokenKind) : Lexer :=
  match s.deepen? s.cursor.column with
  | some s => s.push kind s.cursor.mark s.cursor.mark
  | none => s

/-! ### Tokens -/

/-- Goes past white space, comments and line breaks; outside of brackets a key may follow a break. -/
def skipBlanksFrom (flow : Bool) : Nat → Bool → Cursor → Bool × Cursor
  | 0, keyAllowed, c => (keyAllowed, c)
  | fuel + 1, keyAllowed, c =>
    let c := c.skipWhile fun ch => ch == ' ' || (flow && ch == '\t')
    let c := if c.peek == '#' then c.skipWhile (fun ch => !isLineEnd ch) else c
    match c.lineBreak with
    | (some _, after) => skipBlanksFrom flow fuel (keyAllowed || !flow) after
    | (none, _) => (keyAllowed, c)

/-- Goes to the next token; a byte order mark at the beginning of the text is passed over. -/
def skipBlanks (s : Lexer) : Lexer :=
  let c :=
    if s.cursor.mark.index == 0 && s.cursor.peek == '\uFEFF' then s.cursor.step else s.cursor
  let (allowed, cursor) := skipBlanksFrom s.inFlow (c.rest.length + 1) s.keyAllowed c
  { s with cursor, keyAllowed := allowed }

/-- Ends all block collections; no key is possible any more. -/
def closeBlocks (s : Lexer) : Except Fault Lexer := do
  let s ← (s.unwind (-1)).dropKey
  return { s with keyAllowed := false }

/-- The end of the text. -/
def fetchEnd (s : Lexer) : Except Fault Lexer := do
  let s ← s.closeBlocks
  let s := s.push .streamEnd s.cursor.mark s.cursor.mark
  let brackets := s.brackets.map fun b => { b with outerKey := none }
  return { s with finished := true, key := none, brackets }

/-- `---`, behind which the version is the one declared for the document, or else the default. -/
def fetchDocumentStart (s : Lexer) : Except Fault Lexer := do
  let s ← s.closeBlocks
  return { s.pushIndicator .documentStart 3 with
    declared := none, upcoming := some (s.declared.getD .default) }

/-- `...`. -/
def fetchDocumentEnd (s : Lexer) : Except Fault Lexer := do
  return (← s.closeBlocks).pushIndicator .documentEnd 3

/-- An opening bracket, which may begin a key. -/
def fetchOpening (s : Lexer) (bracket : Bracket) (kind : TokenKind) : Except Fault Lexer := do
  let s ← s.saveKey
  let s := s.pushIndicator kind 1
  return { s with brackets := ⟨bracket, s.key⟩ :: s.brackets, key := none, keyAllowed := true }

/-- A closing bracket, of whichever kind. -/
def fetchClosing (s : Lexer) (kind : TokenKind) : Except Fault Lexer := do
  let s ← s.dropKey
  let s := { s.pushIndicator kind 1 with keyAllowed := false }
  match s.brackets with
  | [] => return s
  | b :: rest => return { s with brackets := rest, key := b.outerKey }

/-- A comma. -/
def fetchComma (s : Lexer) : Except Fault Lexer := do
  let s ← { s with keyAllowed := true }.dropKey
  return s.pushIndicator .flowEntry 1

/-- A dash. -/
def fetchDash (s : Lexer) : Except Fault Lexer := do
  if !s.inFlow && !s.keyAllowed then .error (.bare .entryHere s.cursor.mark)
  else
    let s := if s.inFlow then s else s.openBlock .blockSequenceStart
    let s ← { s with keyAllowed := true }.dropKey
    return s.pushIndicator .blockEntry 1

/-- A question mark. -/
def fetchQuestion (s : Lexer) : Except Fault Lexer := do
  if !s.inFlow && !s.keyAllowed then .error (.bare .keyHere s.cursor.mark)
  else
    let s := if s.inFlow then s else s.openBlock .blockMappingStart
    let s ← { s with keyAllowed := !s.inFlow }.dropKey
    return s.pushIndicator .key 1

/-- A colon: behind a possible key it makes it one, otherwise it stands for itself. -/
def fetchColon (s : Lexer) : Except Fault Lexer := do
  match s.key with
  | some key =>
    let s := { s with key := none, keyAllowed := false }.insert key.number .key key.mark
    let s := if s.inFlow then s else
      match s.deepen? key.mark.column with
      | some s => s.insert key.number .blockMappingStart key.mark
      | none => s
    return s.pushIndicator .value 1
  | none =>
    if !s.inFlow && !s.keyAllowed then .error (.bare .valueHere s.cursor.mark)
    else
      let s := if s.inFlow then s else s.openBlock .blockMappingStart
      return { s with keyAllowed := !s.inFlow }.pushIndicator .value 1

/-- An alias. -/
def fetchAlias (s : Lexer) : Except Fault Lexer := do
  let s ← s.saveKey
  let (name, after) ← scanAnchorName .alias s.cursor
  return { s.push (.alias name) s.cursor.mark after.mark with cursor := after, keyAllowed := false }

/-- An anchor. -/
def fetchAnchor (s : Lexer) : Except Fault Lexer := do
  let s ← s.saveKey
  let (name, after) ← scanAnchorName .anchor s.cursor
  return { s.push (.anchor name) s.cursor.mark after.mark with
    cursor := after, keyAllowed := false }

/-- A tag. -/
def fetchTag (s : Lexer) : Except Fault Lexer := do
  let s ← s.saveKey
  let (name, after) ← scanTag s.version.isNew s.cursor
  return { s.push (.tag name) s.cursor.mark after.mark with cursor := after, keyAllowed := false }

/-- A block scalar, which is no key itself but may be followed by one. -/
def fetchBlockScalar (s : Lexer) (folded : Bool) : Except Fault Lexer := do
  let s ← { s with keyAllowed := true }.dropKey
  let (value, stop, after) ← scanBlockScalar folded s.indent s.cursor
  return { s.push (.scalar .block value) s.cursor.mark stop with cursor := after }

/-- A scalar between quotes. -/
def fetchQuoted (s : Lexer) (double : Bool) : Except Fault Lexer := do
  let s ← s.saveKey
  let (value, after) ← scanQuoted double s.cursor
  return { s.push (.scalar .quoted value) s.cursor.mark after.mark with
    cursor := after, keyAllowed := false }

/-- A plain scalar. -/
def fetchPlain (s : Lexer) : Except Fault Lexer := do
  let s ← s.saveKey
  let scalar := scanPlain s.inFlow s.version.isOld (s.indent + 1) s.cursor
  return { s.push (.scalar .plain (String.ofList scalar.rev.reverse)) s.cursor.mark scalar.stop with
    cursor := scalar.after, keyAllowed := scalar.hasBreak }

/-- Whether a colon at the cursor is an indicator; `held` says whether tokens were held back when
the reading of this token began, and `last` is the token before it. -/
def colonIsIndicator (s : Lexer) (held : Bool) (last : Option Token) : Bool :=
  let gap := isGap (s.cursor.peekAt 1)
  if s.version.isOld && s.inFlow then true
  else match s.brackets with
    | [] => gap
    | b :: _ =>
      if b.bracket = .square then gap
      else if held && last.any (fun t => t.kind == .value) then gap
      else true

/-- Whether a plain scalar can begin at the cursor. -/
def plainBegins (s : Lexer) : Bool :=
  let ch := s.cursor.peek
  let next := s.cursor.peekAt 1
  if !(isGap ch || isIndicator ch) then true
  else if ch == '-' || (!s.inFlow && (ch == '?' || ch == ':')) then !isGap next
  else !s.version.isOld && s.inFlow && ch == ':' && !isSpaceOrTab next

/-- Reads one token that is no directive; block collections may begin or end with it. -/
def fetchPart (s : Lexer) (held : Bool) : Except Fault Lexer :=
  let c := s.cursor
  let gap := isGap (c.peekAt 1)
  match c.peek with
  | '\x00' => s.fetchEnd
  | '[' => s.fetchOpening .square .flowSequenceStart
  | '{' => s.fetchOpening .curly .flowMappingStart
  | ']' => s.fetchClosing .flowSequenceEnd
  | '}' => s.fetchClosing .flowMappingEnd
  | ',' => s.fetchComma
  | '*' => s.fetchAlias
  | '&' => s.fetchAnchor
  | '!' => s.fetchTag
  | '\'' => s.fetchQuoted false
  | '"' => s.fetchQuoted true
  | ch =>
    if c.column == 0 && c.atSeparator then
      if ch == '-' then s.fetchDocumentStart else s.fetchDocumentEnd
    else if ch == '-' && gap then s.fetchDash
    else if ch == '?' && (s.inFlow || gap) then s.fetchQuestion
    else if ch == ':' && s.colonIsIndicator held s.queue.getLast? then s.fetchColon
    else if ch == '|' && !s.inFlow then s.fetchBlockScalar false
    else if ch == '>' && !s.inFlow then s.fetchBlockScalar true
    else if s.plainBegins then s.fetchPlain
    else .error ⟨.strayCharacter ch, some c.mark, some (.nextToken, none)⟩

/-- A directive; a version holds from the start of its document on. -/
def fetchDirective (s : Lexer) : Except Fault Lexer := do
  let s ← s.closeBlocks
  let began := s.cursor.mark
  let (content, after) ← scanDirective s.version.isNew s.cursor
  let declared := match content with
    | .version v => some v
    | _ => s.declared
  let s := { s with declared }.push (.directive content) began after.mark
  return { s with cursor := ← finishDirective began content after }

/-- Reads the next token from wherever the cursor is. -/
def fetch (s : Lexer) : Except Fault Lexer := do
  let held := !s.queue.isEmpty
  let s ← s.skipBlanks.dropStale
  let s := s.unwind s.cursor.column
  if s.cursor.peek == '%' && s.cursor.column == 0 then s.fetchDirective else s.fetchPart held

/-- Puts the version in force that was to come. -/
def advanceVersion (s : Lexer) : Lexer :=
  { s with version := s.upcoming.getD s.version, upcoming := none }

/-- The least number among the possible keys. -/
def firstKey (s : Lexer) : Option Nat :=
  ((s.key :: s.brackets.map (·.outerKey)).filterMap (·.map (·.number))).min?

/-- Gives away the tokens in front of the first possible key, marked with the version in force. -/
def release (s : Lexer) : List Token × Lexer :=
  let n := match s.firstKey with
    | some number => number - s.taken
    | none => s.queue.length
  let out := (s.queue.take n).map fun t => { t with version := s.version }
  (out, { s with queue := s.queue.drop n, taken := s.taken + out.length })

/-- Reads all tokens, with room for `fuel` of them. -/
def runFrom : Nat → Lexer → TokenRun
  | 0, s => ⟨s.queue, none⟩
  | fuel + 1, s =>
    match s.dropStale with
    | .error f => ⟨[], some ⟨f, s.version⟩⟩
    | .ok s =>
      let (out, s) := s.release
      if s.finished then ⟨out, none⟩
      else
        let s := s.advanceVersion
        match s.fetch with
        | .error f => ⟨out, some ⟨f, s.version⟩⟩
        | .ok s =>
          let later := runFrom fuel s
          ⟨out ++ later.tokens, later.halt⟩

end Lexer

/-- The tokens of a text that is read as `version` until a directive gives another. -/
def Token.run (version : Version) (source : List Char) : TokenRun :=
  (Lexer.start version source).runFrom (source.length + 3)

end YamlAudit.Yaml
