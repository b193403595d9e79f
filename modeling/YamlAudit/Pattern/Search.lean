import YamlAudit.Pattern.Limits

/-!
# Pattern — Search

Whether a text has a stretch that a pattern matches.  Matching goes from left to right with what is
to match afterwards as a continuation: where the continuation fails, the next way to match is tried.
A repetition whose last turn matched nothing does not go on.  A match that has to begin with a character
of some set is only tried at such characters, and there the classes of the set are those of the
alphabet of the whole pattern.
-/

namespace YamlAudit

/-- How far a match has come: the position reached, and where groups began and ended, the latest
first. -/
structure MatchState where
  position : Nat
  begun : List (Nat × Nat)
  ended : List (Nat × Nat)
  deriving DecidableEq, Repr

namespace MatchState

/-- Nothing has been matched before a position. -/
def start (position : Nat) : MatchState := ⟨position, [], []⟩

/-- The same state at another position. -/
def goto (s : MatchState) (position : Nat) : MatchState := { s with position }

/-- A group begins here. -/
def beginGroup (s : MatchState) (number : Nat) : MatchState :=
  { s with begun := (number, s.position) :: s.begun }

/-- A group ends here. -/
def endGroup (s : MatchState) (number : Nat) : MatchState :=
  { s with ended := (number, s.position) :: s.ended }

/-- The stretch a group matched last; there is none while the group has begun anew behind it. -/
def group? (s : MatchState) (number : Nat) : Option (Nat × Nat) := do
  let first ← s.begun.lookup number
  let last ← s.ended.lookup number
  if first ≤ last then some (first, last) else none

end MatchState

/-- Matches something and then goes on with a continuation. -/
abbrev Matcher := MatchState → (MatchState → Option MatchState) → Option MatchState

/-- Whether the character at a position, if there is one, is a word character. -/
def wordAt (text : Array Char) (alphabet : Alphabet) (position : Nat) : Bool :=
  match text[position]? with
  | some c => CharKind.word.has alphabet c
  | none => false

/-- Whether a position is such a place.  A text without characters has no word edge and no place that
is none. -/
def PatternPlace.at (p : PatternPlace) (text : Array Char) (position : Nat) : Bool :=
  match p with
  | .textStart => position == 0
  | .lineStart => position == 0 || text[position - 1]? == some '\n'
  | .textEnd => position == text.size
  | .lastLineEnd =>
    position == text.size || (position + 1 == text.size && text[position]? == some '\n')
  | .lineEnd => position == text.size || text[position]? == some '\n'
  | .wordEdge alphabet negated =>
    let before := 0 < position && wordAt text alphabet (position - 1)
    !text.isEmpty && (before != wordAt text alphabet position) != negated

/-- Whether `count` is below a limit. -/
def belowLimit (count : Nat) (most : Option Nat) : Bool :=
  match most with
  | some n => count < n
  | none => true

/-- Repeats greedily: after `count` turns, the last of which started at `last`. -/
def greedyLoop (body : Matcher) (least : Nat) (most : Option Nat)
    (k : MatchState → Option MatchState) : Nat → Nat → Option Nat → MatchState → Option MatchState
  | 0, _, _, _ => none
  | fuel + 1, count, last, s =>
    if count < least then
      body s fun t => greedyLoop body least most k fuel (count + 1) last t
    else if belowLimit count most && last != some s.position then
      (body s fun t => greedyLoop body least most k fuel (count + 1) (some s.position) t).orElse
        fun _ => k s
    else k s

/-- Repeats no more often than it must. -/
def lazyLoop (body : Matcher) (least : Nat) (most : Option Nat)
    (k : MatchState → Option MatchState) : Nat → Nat → Option Nat → MatchState → Option MatchState
  | 0, _, _, _ => none
  | fuel + 1, count, last, s =>
    if count < least then
      body s fun t => lazyLoop body least most k fuel (count + 1) last t
    else (k s).orElse fun _ =>
      if belowLimit count most && last != some s.position then
        body s fun t => lazyLoop body least most k fuel (count + 1) (some s.position) t
      else none

/-- Repeats as often as possible without looking back. -/
def possessiveLoop (body : Matcher) (least : Nat) (most : Option Nat) :
    Nat → Nat → MatchState → Option MatchState
  | 0, _, _ => none
  | fuel + 1, count, s =>
    if belowLimit count most then
      match body s some with
      | some t =>
        if t.position == s.position && least ≤ count then some t
        else possessiveLoop body least most fuel (count + 1) t
      | none => if count < least then none else some s
    else some s

/-- Goes past another occurrence of the characters from `start` to `stop`. -/
def repeatedText (text : Array Char) (anyCase : Option Alphabet) (start stop position : Nat) :
    Option Nat :=
  let alike (a b : Char) : Bool := match anyCase with
    | none => a == b
    | some alphabet => alphabet.lower a == alphabet.lower b
  let same := (List.range (stop - start)).all fun i =>
    match text[start + i]?, text[position + i]? with
    | some a, some b => alike a b
    | _, _ => false
  if same then some (position + (stop - start)) else none

/-- Matches a pattern in a text. -/
def Pattern.run (text : Array Char) : Pattern → Matcher
  | .empty, s, k => k s
  | .one set, s, k =>
    match text[s.position]? with
    | some c => if set.has c then k (s.goto (s.position + 1)) else none
    | none => none
  | .place p, s, k => if p.at text s.position then k s else none
  | .seq p q, s, k => p.run text s fun t => q.run text t k
  | .either p q, s, k => (p.run text s k).orElse fun _ => q.run text s k
  | .loop least most appetite body, s, k =>
    let turns := least + (text.size - s.position) + 2
    match appetite with
    | .greedy => greedyLoop (body.run text) least most k turns 0 none s
    | .lazy => lazyLoop (body.run text) least most k turns 0 none s
    | .possessive => (possessiveLoop (body.run text) least most turns 0 s).bind k
  | .group n body, s, k => body.run text (s.beginGroup n) fun t => k (t.endGroup n)
  | .withOptions body, s, k => body.run text s k
  | .atomic body, s, k => (body.run text s some).bind k
  | .again n anyCase, s, k =>
    match s.group? n with
    | some (start, stop) => (repeatedText text anyCase start stop s.position).bind fun p => k (s.goto p)
    | none => none
  | .ahead negated body, s, k =>
    match body.run text s some with
    | some t => if negated then none else k (t.goto s.position)
    | none => if negated then k s else none
  | .behind negated width body, s, k =>
    let found :=
      if s.position < width.least then none
      else body.run text (s.goto (s.position - width.least)) some
    match found with
    | some t => if negated then none else k (t.goto s.position)
    | none => if negated then k s else none
  | .ifGroup n yes no, s, k =>
    if (s.group? n).isSome then yes.run text s k else no.run text s k

/-! ### Searching -/

/-- The set of characters that a pattern begins with, if it begins with one. -/
def Pattern.leadingSet? : Pattern → Option CharSet
  | .one set => some set
  | .seq p _ | .group _ p | .withOptions p => p.leadingSet?
  | _ => none

/-- The set as it is looked for in a text with an alphabet, unless it names letters that match in any
case. -/
def CharSet.asStart? (s : CharSet) (alphabet : Alphabet) : Option CharSet :=
  if s.anyCase.any fun folding => s.items.any fun item => item.varies folding then none
  else some { s with items := s.items.map (CharItem.inAlphabet alphabet), anyCase := none }

/-- A pattern to search texts with. -/
structure PatternSearch where
  pattern : Pattern
  /-- The characters at which a match is tried, if not at all places. -/
  starts : Option CharSet

namespace PatternSearch

/-- The search for the pattern that a text stands for. -/
def ofText (source : String) : Except Flaw PatternSearch :=
  match PatternReader.whole.run (.start source.toList) with
  | .error flaw _ => .error flaw
  | .ok (p, letters) s =>
    match p.flaw? (letters.contains PatternReader.wholeOption) with
    | some cause => .error ⟨cause, none⟩
    | none =>
      if p.looksLong then .error ⟨.longLook, none⟩
      else
        let alphabet := ((OptionLetters.whole letters).change .default).alphabet
        let starts :=
          if (p.width s.widthOf).least = 0 then none
          else p.leadingSet?.bind fun set => set.asStart? alphabet
        .ok ⟨p, starts⟩

/-- Whether a match is tried at a position. -/
def triesAt (search : PatternSearch) (text : Array Char) (position : Nat) : Bool :=
  match search.starts with
  | none => true
  | some set => text[position]?.any set.has

/-- Whether the pattern matches some stretch of a text. -/
def foundIn (search : PatternSearch) (text : String) : Bool :=
  let chars := text.toList.toArray
  (List.range (chars.size + 1)).any fun i =>
    search.triesAt chars i && (search.pattern.run chars (.start i) some).isSome

end PatternSearch

end YamlAudit
