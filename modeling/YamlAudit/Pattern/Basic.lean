import YamlAudit.Pattern.CharSet

/-!
# Pattern — Basic

Patterns to search texts with: characters of a set, places, sequences, choices, repetitions, groups
that can be referred back to, and looks ahead and behind.  The texts a pattern can match have a least
and perhaps a greatest length (`Pattern.width`); a look behind needs the two to be equal.
-/

namespace YamlAudit

/-- A place between two characters. -/
inductive PatternPlace where
  | textStart
  | lineStart
  | textEnd
  /-- The end of the text, or in front of a line feed that ends it. -/
  | lastLineEnd
  | lineEnd
  /-- Where a word begins or ends, or everywhere else. -/
  | wordEdge (alphabet : Alphabet) (negated : Bool)
  deriving DecidableEq, Repr

/-- How a repetition chooses its count. -/
inductive Appetite where
  /-- As many as possible, fewer if the rest does not match otherwise. -/
  | greedy
  /-- As few as possible. -/
  | lazy
  /-- As many as possible and no fewer. -/
  | possessive
  deriving DecidableEq, Repr

/-- The least and the greatest length of what a pattern matches. -/
structure PatternWidth where
  least : Nat
  most : Option Nat
  deriving DecidableEq, Repr, Inhabited

namespace PatternWidth

/-- Exactly `n` characters. -/
def exactly (n : Nat) : PatternWidth := ⟨n, some n⟩

/-- One after the other. -/
def plus (a b : PatternWidth) : PatternWidth :=
  ⟨a.least + b.least, a.most.bind fun m => b.most.map fun n => m + n⟩

/-- One or the other. -/
def or (a b : PatternWidth) : PatternWidth :=
  ⟨min a.least b.least, a.most.bind fun m => b.most.map fun n => max m n⟩

/-- A number of times. -/
def times (a : PatternWidth) (least : Nat) (most : Option Nat) : PatternWidth :=
  let top := match a.most, most with
    | some 0, _ | _, some 0 => some 0
    | some m, some n => some (m * n)
    | _, _ => none
  ⟨a.least * least, top⟩

/-- The only length, if there is only one. -/
def fixed? (a : PatternWidth) : Option Nat :=
  if a.most = some a.least then some a.least else none

end PatternWidth

/-- A pattern. -/
inductive Pattern where
  | empty
  | one (set : CharSet)
  | place (p : PatternPlace)
  | seq (first second : Pattern)
  | either (first second : Pattern)
  | loop (least : Nat) (most : Option Nat) (appetite : Appetite) (body : Pattern)
  | group (number : Nat) (body : Pattern)
  /-- A pattern in brackets with options of its own. -/
  | withOptions (body : Pattern)
  /-- Matches once and for all. -/
  | atomic (body : Pattern)
  /-- What a group matched, letters perhaps in any case. -/
  | again (number : Nat) (anyCase : Option Alphabet)
  | ahead (negated : Bool) (body : Pattern)
  /-- Matches the characters just before; `width` is that of the body. -/
  | behind (negated : Bool) (width : PatternWidth) (body : Pattern)
  /-- One of two patterns, by whether a group has matched. -/
  | ifGroup (number : Nat) (yes no : Pattern)
  deriving Repr, Inhabited

namespace Pattern

/-- One pattern after the other. -/
def ofList (items : List Pattern) : Pattern := items.foldr seq empty

/-- The width of a pattern; `groups` tells those of the groups it may refer to. -/
def width (groups : Nat → PatternWidth) : Pattern → PatternWidth
  | one _ => .exactly 1
  | seq p q => (p.width groups).plus (q.width groups)
  | either p q => (p.width groups).or (q.width groups)
  | loop least most _ body => (body.width groups).times least most
  | group _ body | withOptions body | atomic body => body.width groups
  | again n _ => groups n
  | ifGroup _ yes no => (yes.width groups).or (no.width groups)
  | empty | place _ | ahead _ _ | behind _ _ _ => .exactly 0

/-- Whether two patterns are the same character, place or reference. -/
def isSameItem (p q : Pattern) : Bool :=
  match p, q with
  | one a, one b => a == b
  | place a, place b => a == b
  | again n a, again m b => n == m && a == b
  | _, _ => false

end Pattern

end YamlAudit
