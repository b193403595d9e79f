import YamlAudit.Text.Alphanumeric
import YamlAudit.Text.Blank
import YamlAudit.Text.CodePoint
import YamlAudit.Text.LetterCase

/-!
# Pattern — CharSet

The sets of characters that a pattern names: single code points, ranges, and the classes of digits,
white space and word characters, each for all scripts or for ASCII alone.  A set may take letters in
any case.  A single code point then stands for all letters that differ from it in case.  A larger set
is held against the lower case of a character, and what it names is put in lower case as well, but only
up to U+FFFF: a code point beyond is left as it is, and a range that goes beyond has besides every
character whose upper case is in it.
-/

namespace YamlAudit

/-- Which characters a pattern takes for letters. -/
inductive Alphabet where
  | ascii
  | unicode
  deriving DecidableEq, Repr, Inhabited

/-- A class of characters. -/
inductive CharKind where
  | digit
  | space
  | word
  deriving DecidableEq, Repr

/-- Whether a character is of a kind. -/
def CharKind.has (kind : CharKind) (alphabet : Alphabet) (c : Char) : Bool :=
  let inReach : Bool := alphabet = .unicode || c.toNat < 0x80
  inReach && match kind with
    | .digit => isDecimalDigit c
    | .space => isSpace c && (alphabet = .unicode || c == ' ' || (0x9 ≤ c.toNat && c.toNat ≤ 0xD))
    | .word => isAlphanumeric c || c == '_'

/-- Part of a set of characters. -/
inductive CharItem where
  | code (n : Nat)
  /-- The code points between two, both included. -/
  | range (first last : Nat)
  /-- A class, or all that is not in it. -/
  | kind (kind : CharKind) (alphabet : Alphabet) (negated : Bool)
  deriving DecidableEq, Repr

namespace CharItem

/-- Whether a character is in a part. -/
def has (item : CharItem) (c : Char) : Bool :=
  match item with
  | code n => codePoint c == n
  | range first last => first ≤ codePoint c && codePoint c ≤ last
  | kind k alphabet negated => k.has alphabet c != negated

/-- The same part with the classes of another alphabet. -/
def inAlphabet (alphabet : Alphabet) (item : CharItem) : CharItem :=
  match item with
  | kind k _ negated => kind k alphabet negated
  | item => item

end CharItem

/-! ### Letters in any case -/

/-- Lower case letters that are alike in any case. -/
def twinLetters : List (List Nat) :=
  [
    [0x69, 0x131], [0x73, 0x17F], [0xB5, 0x3BC], [0x345, 0x3B9, 0x1FBE], [0x390, 0x1FD3],
    [0x3B0, 0x1FE3], [0x3B2, 0x3D0], [0x3B5, 0x3F5], [0x3B8, 0x3D1], [0x3BA, 0x3F0], [0x3C0, 0x3D6],
    [0x3C1, 0x3F1], [0x3C2, 0x3C3], [0x3C6, 0x3D5], [0x432, 0x1C80], [0x434, 0x1C81],
    [0x43E, 0x1C82], [0x441, 0x1C83], [0x442, 0x1C84, 0x1C85], [0x44A, 0x1C86], [0x463, 0x1C87],
    [0x1C88, 0xA64B], [0x1E61, 0x1E9B], [0xFB05, 0xFB06]
  ]

namespace Alphabet

/-- A character in lower case. -/
def lower (alphabet : Alphabet) (c : Char) : Char :=
  match alphabet with
  | ascii => c.toLower
  | unicode => lowerCase c

/-- Whether one of the code points between two is a letter that has another case. -/
def varies (alphabet : Alphabet) (first last : Nat) : Bool :=
  match alphabet with
  | ascii => varyInCase first (min last 0x7F)
  | unicode => varyInCase first last

/-- The lower case letters that a lower case letter is alike with. -/
def twins (alphabet : Alphabet) (c : Char) : List Char :=
  match alphabet with
  | ascii => [c]
  | unicode => match twinLetters.find? fun family => family.contains c.toNat with
    | some family => family.map Char.ofNat
    | none => [c]

/-- The characters with a given lower case. -/
def sources (alphabet : Alphabet) (c : Char) : List Char :=
  let simple := if c.isLower then [c, c.toUpper] else if c.isUpper then [] else [c]
  match alphabet with
  | ascii => simple
  | unicode => simple ++ lowerRuns.filterMap fun run =>
      let n := ((c.toNat : Int) - run.shift).toNat
      if run.has n then some (Char.ofNat n) else none

/-- The characters that a character in lower case is alike with in any case. -/
def likes (alphabet : Alphabet) (c : Char) : List Char :=
  (alphabet.twins c).flatMap alphabet.sources

end Alphabet

/-! ### Sets -/

/-- The last code point that is put in lower case as part of a set. -/
def lastFoldedCode : Nat := 0xFFFF

namespace CharItem

/-- Whether a part of a set names letters that have another case, or may do so. -/
def varies (item : CharItem) (alphabet : Alphabet) : Bool :=
  match item with
  | code n => alphabet.varies n n
  | range first last => lastFoldedCode < last || alphabet.varies first last
  | kind _ _ _ => false

/-- Whether a part of a set has to be held against characters in lower case. -/
def isFolded (item : CharItem) (alphabet : Alphabet) : Bool :=
  item.varies alphabet || match item with
    | code n => lastFoldedCode < codePoint (alphabet.lower (charOfCode n))
    | _ => false

/-- Whether a character in lower case is in a part that takes letters in any case. -/
def hasFolded (alphabet : Alphabet) (c : Char) : CharItem → Bool
  | code n =>
    let lowered := alphabet.lower (charOfCode n)
    if lastFoldedCode < codePoint lowered then codePoint c == n
    else (alphabet.twins lowered).contains c
  | range first last =>
    let within : Char → Bool := (range first last).has
    ((alphabet.likes c).any fun d => within d && codePoint d ≤ lastFoldedCode)
      || (lastFoldedCode < last && (within c || within (upperCaseHead c)))
  | item => item.has c

end CharItem

/-- A set of characters. -/
structure CharSet where
  items : List CharItem
  negated : Bool
  /-- The alphabet whose letters are taken in any case. -/
  anyCase : Option Alphabet
  deriving DecidableEq, Repr

namespace CharSet

/-- The set of one code point. -/
def single (n : Nat) (anyCase : Option Alphabet) : CharSet := ⟨[.code n], false, anyCase⟩

/-- All characters. -/
def all : CharSet := ⟨[], true, none⟩

/-- All characters but the line feed. -/
def withinLine : CharSet := ⟨[.code 0xA], true, none⟩

/-- Whether a single code point and a character are alike in any case. -/
def alike (alphabet : Alphabet) (n : Nat) (c : Char) : Bool :=
  if alphabet.varies n n then
    (alphabet.twins (alphabet.lower (charOfCode n))).contains (alphabet.lower c)
  else codePoint c == n

/-- Whether a character is in a set. -/
def has (s : CharSet) (c : Char) : Bool :=
  let within : Bool := match s.anyCase, s.items with
    | none, items => items.any fun item => item.has c
    | some alphabet, [.code n] => alike alphabet n c
    | some alphabet, items =>
      if items.any fun item => item.isFolded alphabet then
        items.any (CharItem.hasFolded alphabet (alphabet.lower c))
      else items.any fun item => item.has c
  within != s.negated

end CharSet

end YamlAudit
