import YamlAudit.Yaml.Markup
import YamlAudit.Yaml.Token.Lexer

/-!
# Yaml — Grammar

From tokens to marked-up parts.  The grammar is read by a machine that never goes back: what it
expects next stands on a stack (`Expected`), each step looks at no more than two tokens and yields
one part.  `Markup.run` gives the parts of a text up to its first fault.

A node that is missing is an empty scalar.  It stands where the indicator in front of it ends; a
missing value without its colon stands where the next token begins, and one with a colon in a block
mapping where the next token ends.
-/

namespace YamlAudit.Yaml

/-- What may come next. -/
inductive Expected where
  | firstDocument
  | document
  | documentContent
  | documentEnd
  | blockNode
  | blockSequenceFirst
  | blockSequenceEntry
  | indentlessEntry
  | blockMappingFirst
  | blockMappingKey
  | blockMappingValue
  | flowSequenceFirst
  | flowSequenceEntry
  | flowPairKey
  | flowPairValue
  | flowPairEnd
  | flowMappingFirst
  | flowMappingKey
  | flowMappingValue
  | flowMappingNoValue
  deriving DecidableEq, Repr, Inhabited

/-- How far the reading of a token run has come. -/
structure Reading where
  tokens : List Token
  halt : Option Halt
  version : Version
  stack : List Expected
  /-- Where the open collections begin, the innermost first. -/
  marks : List Mark
  handles : List (String × String)
  deriving Inhabited

/-- A rule of the grammar: it changes the reading and ends with a result or a fault. -/
abbrev Rule := EStateM Fault Reading

namespace Rule

/-- The next token.  Looking at it is what brings a fault of the text to light. -/
def peek : Rule Token := do
  let r ← get
  match r.tokens with
  | t :: _ => set { r with version := t.version }; return t
  | [] => match r.halt with
    | some halt => set { r with version := halt.version }; throw halt.fault
    | none => return { (default : Token) with kind := .streamEnd }

/-- Goes past the next token. -/
def take : Rule Token := do
  let t ← peek
  modify fun r => { r with tokens := r.tokens.tail }
  return t

/-- Whether the next token is of one of these kinds. -/
def sees (p : TokenKind → Bool) : Rule Bool := return p (← peek).kind

/-- Says what comes after the rule. -/
def push (e : Expected) : Rule Unit := modify fun r => { r with stack := e :: r.stack }

/-- Notes that a collection begins. -/
def mark (m : Mark) : Rule Unit := modify fun r => { r with marks := m :: r.marks }

/-- Notes that a collection ends. -/
def unmark : Rule Unit := modify fun r => { r with marks := r.marks.tail }

/-- Where the innermost open collection begins. -/
def openMark : Rule Mark := return (← get).marks.headD default

/-- A part of the text. -/
def part (kind : MarkupKind) (start stop : Mark) : Rule Markup :=
  return ⟨kind, start, stop, (← get).version⟩

/-- An empty scalar. -/
def empty (place : Mark) : Rule Markup := part (.scalar ⟨none, none⟩ true "") place place

/-! ### Documents -/

/-- The handles that are known without a directive. -/
def defaultHandles : List (String × String) := [("!", "!"), ("!!", "tag:yaml.org,2002:")]

/-- What directives say of a document. -/
structure Directives where
  version : Option Version
  handles : List (String × String)

/-- Takes one directive into account. -/
def Directives.add (d : Directives) (t : Token) : DirectiveContent → Except Fault Directives
  | .version v =>
    if d.version.isSome then .error (.bare .repeatedVersion t.start)
    else if v.1 != 1 then .error (.bare .foreignVersion t.start)
    else .ok { d with version := some v }
  | .tagPrefix handle replacement =>
    if (d.handles.lookup handle).isSome then .error (.bare (.repeatedHandle handle) t.start)
    else .ok { d with handles := d.handles ++ [(handle, replacement)] }
  | .other => .ok d

/-- Reads directives one after another. -/
def directivesFrom : Nat → Directives → Rule Directives
  | 0, d => return d
  | fuel + 1, d => do
    match (← peek).kind with
    | .directive content =>
      let t ← take
      match d.add t content with
      | .ok d => directivesFrom fuel d
      | .error f => throw f
    | _ => return d

/-- Reads the directives in front of a document, and gives the version it is written in. -/
def directives : Rule Version := do
  let d ← directivesFrom ((← get).tokens.length + 1) ⟨none, []⟩
  if let some v := d.version then
    if v.2 != 1 && v.2 != 2 then throw ⟨.unknownMinor v, none, none⟩
  let defaults := defaultHandles.filter fun h => (d.handles.lookup h.1).isNone
  modify fun r => { r with handles := d.handles ++ defaults }
  return d.version.getD .default

/-- Goes past document ends. -/
def skipDocumentEnds : Nat → Rule Unit
  | 0 => return ()
  | fuel + 1 => do
    if ← sees (· == .documentEnd) then
      let _ ← take
      skipDocumentEnds fuel

/-- A document with its start marker, or the end of the stream. -/
def document : Rule Markup := do
  skipDocumentEnds ((← get).tokens.length + 1)
  if ← sees (· == .streamEnd) then
    let t ← take
    part .streamEnd t.start t.stop
  else
    let version ← directives
    let next ← peek
    if next.kind != .documentStart then
      throw (.bare (.expectedDocument next.kind) next.start)
    let t ← take
    modify fun r => { r with version }
    push .documentEnd
    push .documentContent
    part .documentStart t.start t.stop

/-- Whether a token cannot begin the content of a document. -/
def endsDocument : TokenKind → Bool
  | .directive _ | .documentStart | .documentEnd | .streamEnd => true
  | _ => false

/-- A document that may do without its start marker. -/
def firstDocument : Rule Markup := do
  let next ← peek
  match next.kind with
  | .directive _ | .documentStart | .streamEnd => document
  | _ =>
    modify fun r => { r with handles := defaultHandles }
    push .documentEnd
    push .blockNode
    part .documentStart next.start next.start

/-- The end of a document.  Behind an end marker the line has to end; from version 1.2 on a document
without start marker may follow. -/
def documentEnd : Rule Markup := do
  let next ← peek
  if next.kind == .documentEnd then
    let t ← take
    let after ← peek
    if after.kind != .streamEnd && t.stop.line == after.start.line then
      throw (.bare (.afterDocumentEnd after.kind) after.start)
    push (if (← get).version.isOld then .document else .firstDocument)
    part .documentEnd next.start t.stop
  else
    push .document
    part .documentEnd next.start next.start

/-! ### Nodes -/

/-- The anchor and the tag in front of a node, and where they stand. -/
structure Front where
  anchor : Option String
  tag : Option TagName
  start : Option Mark
  stop : Option Mark
  tagMark : Option Mark

/-- Reads a tag if there is one. -/
def tag? : Rule (Option (Token × TagName)) := do
  match (← peek).kind with
  | .tag name => return some (← take, name)
  | _ => return none

/-- Reads an anchor if there is one. -/
def anchor? : Rule (Option (Token × String)) := do
  match (← peek).kind with
  | .anchor name => return some (← take, name)
  | _ => return none

/-- Reads an anchor and a tag in any order.  They begin with the anchor if there is one. -/
def front : Rule Front := do
  match ← anchor? with
  | some (a, anchor) =>
    match ← tag? with
    | some (t, tag) => return ⟨anchor, tag, a.start, t.stop, t.start⟩
    | none => return ⟨anchor, none, a.start, a.stop, none⟩
  | none =>
    match ← tag? with
    | none => return ⟨none, none, none, none, none⟩
    | some (t, tag) =>
      match ← anchor? with
      | some (a, anchor) => return ⟨anchor, tag, a.start, a.stop, a.start⟩
      | none => return ⟨none, tag, t.start, t.stop, t.start⟩

/-- What a suffix stands for: a percent sign and two characters are the character whose number they
are in base sixteen. -/
def decodedSuffix : List Char → Except Problem (List Char)
  | '%' :: a :: b :: rest => do
    return (← character [a, b]) :: (← decodedSuffix rest)
  | '%' :: rest => do return [← character rest]
  | c :: rest => do return c :: (← decodedSuffix rest)
  | [] => .ok []
where
  /-- The character with a number in base sixteen. -/
  character (digits : List Char) : Except Problem Char :=
    match readNumeral 16 digits with
    | .error _ => .error (.notHexadecimal digits)
    | .ok n => if n < 0 then .error .codePointRange else .ok (charOfCode n.toNat)

/-- The suffix of a tag with its numbers decoded. -/
def suffixOf (name : TagName) : Rule String :=
  match decodedSuffix name.suffix.toList with
  | .ok cs => return String.ofList cs
  | .error problem => throw ⟨problem, none, none⟩

/-- The full form of a tag. -/
def fullTag (f : Front) : Rule (Option String) := do
  match f.tag with
  | none => return none
  | some name =>
    match name.handle with
    | none => return some (← suffixOf name)
    | some handle =>
      match (← get).handles.lookup handle with
      | some replacement => return some (replacement ++ (← suffixOf name))
      | none => throw ⟨.undefinedHandle handle, f.tagMark, some (.node, f.start)⟩

/-- A node.  Block collections are nodes only where `block` says so, and sequences without
indentation of their own only where `indentless` does. -/
def node (block indentless : Bool) : Rule Markup := do
  if let .alias name := (← peek).kind then
    let t ← take
    return ← part (.alias name) t.start t.stop
  let f ← front
  let tag ← fullTag f
  let next ← peek
  let start := f.start.getD next.start
  let properties : Properties := ⟨f.anchor, tag⟩
  let untagged := tag.isNone || tag == some "!"
  match next.kind with
  | .blockEntry =>
    if indentless then
      push .indentlessEntry
      return ← part (.sequenceStart properties) start next.stop
  | .scalar style value =>
    let t ← take
    let untyped := (style == .plain && tag.isNone) || tag == some "!"
    return ← part (.scalar properties untyped value) start t.stop
  | .flowSequenceStart =>
    push .flowSequenceFirst
    return ← part (.sequenceStart properties) start next.stop
  | .flowMappingStart =>
    push .flowMappingFirst
    return ← part (.mappingStart properties) start next.stop
  | .blockSequenceStart =>
    if block then
      push .blockSequenceFirst
      return ← part (.sequenceStart properties) start next.start
  | .blockMappingStart =>
    if block then
      push .blockMappingFirst
      return ← part (.mappingStart properties) start next.start
  | _ => pure ()
  if f.anchor.isSome || tag.isSome then
    part (.scalar properties untagged "") start (f.stop.getD start)
  else
    throw (.during (if block then .blockNode else .flowNode) start (.noContent next.kind) next.start)

/-- The content of a document, which may be missing. -/
def documentContent : Rule Markup := do
  let next ← peek
  if endsDocument next.kind then empty next.start else node true false

/-! ### Block collections -/

/-- An entry of a block sequence, or its end. -/
def blockSequenceEntry : Rule Markup := do
  let next ← peek
  if next.kind == .blockEntry then
    let t ← take
    if ← sees (fun k => k == .blockEntry || k == .blockEnd) then
      push .blockSequenceEntry
      empty t.stop
    else
      push .blockSequenceEntry
      node true false
  else if next.kind == .blockEnd then
    let t ← take
    unmark
    part .sequenceEnd t.start t.stop
  else
    throw (.during .blockCollection (← openMark) (.noBlockEnd next.kind) next.start)

/-- An entry of a sequence that is indented no deeper than the mapping around it, or its end. -/
def indentlessEntry : Rule Markup := do
  let next ← peek
  if next.kind == .blockEntry then
    let t ← take
    if ← sees (fun k => k == .blockEntry || k == .key || k == .value || k == .blockEnd) then
      push .indentlessEntry
      empty t.stop
    else
      push .indentlessEntry
      node true false
  else part .sequenceEnd next.start next.start

/-- What can neither be the key nor the value of a pair. -/
def endsPart (k : TokenKind) : Bool := k == .key || k == .value || k == .blockEnd

/-- A key of a block mapping, or its end. -/
def blockMappingKey : Rule Markup := do
  let next ← peek
  if next.kind == .key then
    let t ← take
    if ← sees endsPart then
      push .blockMappingValue
      empty t.stop
    else
      push .blockMappingValue
      node true true
  else if next.kind == .value && (← get).version.isNew then
    push .blockMappingValue
    empty next.start
  else if next.kind == .blockEnd then
    let t ← take
    unmark
    part .mappingEnd t.start t.stop
  else
    throw (.during .blockMapping (← openMark) (.noBlockEnd next.kind) next.start)

/-- A value of a block mapping. -/
def blockMappingValue : Rule Markup := do
  let next ← peek
  push .blockMappingKey
  if next.kind == .value then
    let _ ← take
    if ← sees endsPart then empty (← peek).stop else node true true
  else empty next.start

/-! ### Flow collections -/

/-- Goes past the comma between two entries, which has to be there. -/
def comma (first : Bool) (activity : Activity) (close : TokenKind) : Rule Unit := do
  if !first then
    let next ← peek
    if next.kind == .flowEntry then
      let _ ← take
    else
      throw (.during activity (← openMark) (.noComma close next.kind) next.start)

/-- The end of a flow collection. -/
def flowEnd (kind : MarkupKind) : Rule Markup := do
  let t ← take
  unmark
  part kind t.start t.stop

/-- An entry of a flow sequence, or its end.  A pair among the entries is a mapping of its own. -/
def flowSequenceEntry (first : Bool) : Rule Markup := do
  if ← sees (· == .flowSequenceEnd) then flowEnd .sequenceEnd
  else
    comma first .flowSequence .flowSequenceEnd
    let next ← peek
    if next.kind == .key then
      push .flowPairKey
      part (.mappingStart ⟨none, none⟩) next.start next.stop
    else if next.kind == .flowSequenceEnd then flowEnd .sequenceEnd
    else
      push .flowSequenceEntry
      node false false

/-- The key of a pair in a flow sequence. -/
def flowPairKey : Rule Markup := do
  let t ← take
  push .flowPairValue
  if ← sees (fun k => k == .value || k == .flowEntry || k == .flowSequenceEnd) then empty t.stop
  else node false false

/-- The value of a pair in a flow sequence. -/
def flowPairValue : Rule Markup := do
  let next ← peek
  push .flowPairEnd
  if next.kind == .value then
    let t ← take
    if ← sees (fun k => k == .flowEntry || k == .flowSequenceEnd) then empty t.stop
    else node false false
  else empty next.start

/-- The end of a pair in a flow sequence. -/
def flowPairEnd : Rule Markup := do
  push .flowSequenceEntry
  let next ← peek
  part .mappingEnd next.start next.start

/-- A key of a flow mapping, or its end. -/
def flowMappingKey (first : Bool) : Rule Markup := do
  if ← sees (· == .flowMappingEnd) then flowEnd .mappingEnd
  else
    comma first .flowMapping .flowMappingEnd
    let next ← peek
    if next.kind == .key then
      let t ← take
      push .flowMappingValue
      if ← sees (fun k => k == .value || k == .flowEntry || k == .flowMappingEnd) then empty t.stop
      else node false false
    else if next.kind == .value && (← get).version.isNew then
      push .flowMappingValue
      empty next.stop
    else if next.kind == .flowMappingEnd then flowEnd .mappingEnd
    else
      push .flowMappingNoValue
      node false false

/-- A value of a flow mapping. -/
def flowMappingValue : Rule Markup := do
  let next ← peek
  push .flowMappingKey
  if next.kind == .value then
    let t ← take
    if ← sees (fun k => k == .flowEntry || k == .flowMappingEnd) then empty t.stop
    else node false false
  else empty next.start

/-- The value of a key that stands alone in a flow mapping. -/
def flowMappingNoValue : Rule Markup := do
  push .flowMappingKey
  empty (← peek).start

/-- Goes past the token that begins a collection. -/
def enter : Rule Unit := do
  let t ← take
  mark t.start

/-- The rule for what is expected. -/
def expected : Expected → Rule Markup
  | .firstDocument => firstDocument
  | .document => document
  | .documentContent => documentContent
  | .documentEnd => documentEnd
  | .blockNode => node true false
  | .blockSequenceFirst => do enter; blockSequenceEntry
  | .blockSequenceEntry => blockSequenceEntry
  | .indentlessEntry => indentlessEntry
  | .blockMappingFirst => do enter; blockMappingKey
  | .blockMappingKey => blockMappingKey
  | .blockMappingValue => blockMappingValue
  | .flowSequenceFirst => do enter; flowSequenceEntry true
  | .flowSequenceEntry => flowSequenceEntry false
  | .flowPairKey => flowPairKey
  | .flowPairValue => flowPairValue
  | .flowPairEnd => flowPairEnd
  | .flowMappingFirst => do enter; flowMappingKey true
  | .flowMappingKey => flowMappingKey false
  | .flowMappingValue => flowMappingValue
  | .flowMappingNoValue => flowMappingNoValue

end Rule

/-- The parts of a text, up to a fault if there is one, and the version in force at the end. -/
structure MarkupRun where
  parts : List Markup
  halt : Option Fault
  version : Version

/-- Reads parts as long as something is expected, with room for `fuel` of them. -/
def Reading.runFrom : Nat → Reading → MarkupRun
  | 0, r => ⟨[], none, r.version⟩
  | fuel + 1, r =>
    match r.stack with
    | [] => ⟨[], none, r.version⟩
    | e :: rest =>
      match Rule.expected e { r with stack := rest } with
      | .error fault r => ⟨[], some fault, r.version⟩
      | .ok part r =>
        let later := runFrom fuel r
        { later with parts := part :: later.parts }

/-- The first character a text may not hold, with its position. -/
def inadmissible? (position : Nat) : List Char → Option (Char × Nat)
  | [] => none
  | c :: rest => if isAdmissible c then inadmissible? (position + 1) rest else some (c, position)

/-- The parts of a text that is read as `version` until a directive gives another. -/
def Markup.run (version : Version) (source : List Char) : MarkupRun :=
  match inadmissible? 0 source with
  | some (c, position) => ⟨[], some ⟨.inadmissible c position, none, none⟩, version⟩
  | none =>
    let tokens := Token.run version source
    let reading : Reading :=
      ⟨tokens.tokens, tokens.halt, version, [.firstDocument], [], Rule.defaultHandles⟩
    reading.runFrom (8 * tokens.tokens.length + 16)

end YamlAudit.Yaml
