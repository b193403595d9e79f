import YamlAudit.Pattern.Escape

/-!
# Pattern — Read

Patterns from their texts.  A text is a choice between sequences of pieces; a piece is a character, a
set of characters, a place, a group or a look around, and a count may follow it.  Brackets that do
nothing but keep pieces together vanish once the sequence around them is complete.  Of a choice, what
all alternatives begin with is put in front of it, and a choice between characters is a set.
-/

namespace YamlAudit

/-! ### Choices -/

/-- What all alternatives begin with, if that is the same character, place or reference. -/
def commonItem? (alternatives : List (List Pattern)) : Option Pattern :=
  match alternatives with
  | (first :: _) :: others =>
    if others.all fun a => (a.head?.map first.isSameItem).getD false then some first else none
  | _ => none

/-- What all alternatives begin with, up to `n` items, and what is left of them. -/
def commonItems : Nat → List (List Pattern) → List Pattern × List (List Pattern)
  | 0, alternatives => ([], alternatives)
  | n + 1, alternatives =>
    match commonItem? alternatives with
    | some p =>
      let (ps, rest) := commonItems n (alternatives.map List.tail)
      (p :: ps, rest)
    | none => ([], alternatives)

/-- The members of a set of characters that stands alone, if nothing is excluded by it. -/
def aloneItems? (alternative : List Pattern) : Option (List CharItem) :=
  match alternative with
  | [.one set] => if set.negated then none else some set.items
  | _ => none

/-- A choice between alternatives in a place with options. -/
def choiceOf (o : PatternOptions) (alternatives : List (List Pattern)) : List Pattern :=
  match alternatives with
  | [] => []
  | [only] => only
  | first :: _ =>
    let (shared, rest) := commonItems first.length alternatives
    shared ++ [match rest.mapM aloneItems? with
      | some sets => .one ⟨sets.flatten.eraseDups, false, o.folding⟩
      | none => match (rest.map Pattern.ofList).reverse with
        | [] => .empty
        | last :: before => before.foldl (fun p q => .either q p) last]

/-! ### Pieces -/

/-- What a count after a piece has to know. -/
inductive PieceKind where
  | item
  /-- A place cannot be repeated. -/
  | place
  /-- A repetition cannot be repeated again. -/
  | loop
  deriving DecidableEq, Repr

/-- A piece of a sequence, which may turn out to be several. -/
structure Piece where
  items : List Pattern
  kind : PieceKind

namespace Piece

/-- A piece that can be repeated. -/
def plain (p : Pattern) : Piece := ⟨[p], .item⟩

/-- A piece that is a place. -/
def ofPlace (p : PatternPlace) : Piece := ⟨[.place p], .place⟩

end Piece

namespace PatternReader

/-- The sequence of pieces that are given in reverse. -/
def joined (pieces : List Piece) : List Pattern := pieces.reverse.flatMap Piece.items

/-! ### Counts -/

/-- No repetition has as many turns. -/
def countLimit : Nat := 4294967295

/-- The count that decimal digits stand for. -/
def countOf (ds : List Char) : PatternReader Nat := do
  if digitLimit < ds.length then throw ⟨.overlongCount ds.length, none⟩
  let n := numberIn 10 ds
  if countLimit ≤ n then throw ⟨.countTooLarge, none⟩
  return n

/-- The counts between curly brackets after the opening one; nothing is read if there are none. -/
def bracedCount : PatternReader (Option (Nat × Option Nat)) := do
  let s ← get
  let start ← position
  if ← sees '\x7d' then return none
  let low ← takeWhile Char.isDigit (← left)
  let high ← if ← accept ',' then takeWhile Char.isDigit (← left) else pure low
  if ← accept '\x7d' then
    let least ← countOf low
    if high.isEmpty then return some (least, none)
    let most ← countOf high
    if most < least then flaw .minAboveMax start
    return some (least, some most)
  else
    set s
    return none

/-- The mark behind a count. -/
def appetite : PatternReader Appetite := do
  if ← accept '?' then return .lazy
  if ← accept '+' then return .possessive
  return .greedy

/-- Repeats the last of the pieces, which are given in reverse. -/
def repeatLast (start : Nat) (least : Nat) (most : Option Nat) (pieces : List Piece) :
    PatternReader (List Piece) := do
  match pieces with
  | [] => flaw .nothingToRepeat start
  | last :: before =>
    match last.kind with
    | .place => flaw .nothingToRepeat start
    | .loop => flaw .multipleRepeat start
    | .item => return ⟨[.loop least most (← appetite) (.ofList last.items)], .loop⟩ :: before

/-! ### Brackets -/

/-- What is in a bracket that began at `start`, up to and including its closing one. -/
def inBrackets {α : Type} (start : Nat) (content : PatternReader α) : PatternReader α := do
  let a ← content
  if !(← accept ')') then flaw .unterminatedGroup start
  return a

/-- A group that began at `start` and whose name, if it has one, starts at `nameStart`. -/
def capture (content : PatternReader (List Pattern)) (start : Nat) (name : Option String)
    (nameStart : Nat) : PatternReader Piece := do
  let number ← beginGroup name nameStart
  let body := Pattern.ofList (← inBrackets start content)
  let width ← widthOf body
  modify fun s => { s with complete := (number, width) :: s.complete }
  return .plain (.group number body)

/-- A look behind that began at `start`. -/
def lookBehind (content : PatternReader (List Pattern)) (start : Nat) (negated : Bool) :
    PatternReader Piece := do
  let outer := (← get).fence
  if outer.isNone then modify fun s => { s with fence := some s.groups }
  let fenced : PatternReader (List Pattern) := do
    let items ← content
    modify fun s => { s with fence := outer }
    return items
  let body := Pattern.ofList (← inBrackets start fenced)
  return .plain (.behind negated (← widthOf body) body)

/-- A choice by whether a group has matched, in a bracket that began at `start`. -/
def conditional (branch : PatternReader (List Pattern)) (start : Nat) : PatternReader Piece := do
  let number ← conditionGroup
  inBrackets start do
    let yes ← branch
    let no ← if ← accept '|' then branch else pure []
    if ← sees '|' then flawHere .thirdBranch
    return .plain (.ifGroup number (.ofList yes) (.ofList no))

mutual

/-- Sequences with bars between them; at most `n` tokens are left. -/
def alternatives : Nat → PatternOptions → PatternReader (List (List Pattern))
  | 0, _ => return []
  | n + 1, o => do
    let first ← sequence n o []
    if ← accept '|' then return first :: (← alternatives n o)
    return [first]

/-- The pieces of a sequence after those read so far, which are given in reverse. -/
def sequence : Nat → PatternOptions → List Piece → PatternReader (List Pattern)
  | 0, _, read => return joined read
  | n + 1, o, read => do
    if o.spaced then skipSpacing (← left)
    let some t ← peek | return joined read
    if t.is '|' || t.is ')' then return joined read
    skip
    let single (m : Nat) : PatternReader (List Pattern) :=
      sequence n o (.plain (.one (.single m o.folding)) :: read)
    if t.escaped then
      match placeOf? o.alphabet t.char with
      | some p => sequence n o (.ofPlace p :: read)
      | none => sequence n o (.plain (← escape o t) :: read)
    else match t.char with
      | '[' => sequence n o (.plain (← charSet o t.position) :: read)
      | '(' =>
        match ← bracket n o t.position with
        | some piece => sequence n o (piece :: read)
        | none => sequence n o read
      | '.' => sequence n o (.plain (.one (if o.dotAll then .all else .withinLine)) :: read)
      | '^' => sequence n o (.ofPlace (if o.multiline then .lineStart else .textStart) :: read)
      | '$' => sequence n o (.ofPlace (if o.multiline then .lineEnd else .lastLineEnd) :: read)
      | '?' => sequence n o (← repeatLast t.position 0 (some 1) read)
      | '*' => sequence n o (← repeatLast t.position 0 none read)
      | '+' => sequence n o (← repeatLast t.position 1 none read)
      | '\x7b' =>
        match ← bracedCount with
        | some (least, most) => sequence n o (← repeatLast t.position least most read)
        | none => single 0x7B
      | c => single (codePoint c)

/-- What an opening bracket at `start` begins; a comment is no piece. -/
def bracket : Nat → PatternOptions → Nat → PatternReader (Option Piece)
  | 0, _, _ => return none
  | n + 1, o, start => do
    let inside (o : PatternOptions) : PatternReader (List Pattern) :=
      return choiceOf o (← alternatives n o)
    let unknown (text : List Char) : PatternReader (Option Piece) :=
      flaw (.unknownExtension (String.ofList text)) (start + 1)
    if !(← accept '?') then return some (← capture (inside o) start none start)
    let some t ← take | flawHere .endOfPattern
    if t.escaped then unknown t.text
    else match t.char with
      | 'P' =>
        let nameStart := (← position) + 1
        if ← accept '<' then
          let name ← groupName '>'
          return some (← capture (inside o) start (some name) nameStart)
        else if ← accept '=' then
          let number ← groupNamed (← groupName ')') nameStart
          checkReference number nameStart
          return some (.plain (.again number o.folding))
        else
          let some u ← take | flawHere .endOfPattern
          unknown ('P' :: u.text)
      | ':' => return some ⟨← inBrackets start (inside o), .item⟩
      | '>' => return some (.plain (.atomic (.ofList (← inBrackets start (inside o)))))
      | '#' =>
        skipComment start
        return none
      | '=' => return some (.plain (.ahead false (.ofList (← inBrackets start (inside o)))))
      | '!' => return some (.plain (.ahead true (.ofList (← inBrackets start (inside o)))))
      | '<' =>
        let some u ← take | flawHere .endOfPattern
        if u.is '=' then return some (← lookBehind (inside o) start false)
        else if u.is '!' then return some (← lookBehind (inside o) start true)
        else unknown ('<' :: u.text)
      | '(' => return some (← conditional (sequence n o []) start)
      | c =>
        if !(isOption c || c == '-') then unknown [c]
        else
          let letters ← options c
          match letters with
          | .whole _ => flaw .lateFlags start
          | .bracket _ _ =>
            let body ← inBrackets start (inside (letters.change o))
            return some (.plain (.withOptions (.ofList body)))

end

/-- A whole text, and the letters of the options for all of it. -/
def whole : PatternReader (Pattern × List Char) := do
  refuseDangling
  let n := 3 * (← left) + 3
  let letters ← leadingOptions n []
  let o := (OptionLetters.whole letters).change .default
  let p := Pattern.ofList (choiceOf o (← alternatives n o))
  if letters.contains 'a' && letters.contains 'u' then throw ⟨.bothAlphabets, none⟩
  if ← sees ')' then flawHere .unbalanced
  let s ← get
  if let some (number, start) := s.conditions.find? fun c => s.groups < c.1 then
    flaw (.noSuchGroup number) start
  return (p, letters)

end PatternReader

end YamlAudit
