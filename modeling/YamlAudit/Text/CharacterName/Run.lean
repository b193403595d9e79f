/-!
# Text — CharacterName — Run

Names of characters that follow one another, written one after the other.  Names consist of capital
letters, digits, spaces and hyphens, so a small letter can begin each of them; it tells how many
leading words a name shares with the name before, `a` for none.
-/

namespace YamlAudit

/-- The names of the characters from `first` on, in lines. -/
structure NameRun where
  first : Nat
  lines : List String

/-- The words of a text. -/
def nameWords (text : List Char) : List (List Char) :=
  text.foldr (fun c words => match c, words with
    | ' ', _ => [] :: words
    | c, w :: rest => (c :: w) :: rest
    | c, [] => [[c]]) [[]]

namespace NameRun

/-- What is written of each name: how many words it shares, and the text after those. -/
def entries (r : NameRun) : List (Nat × List Char) :=
  ((r.lines.flatMap String.toList).foldr (fun c (text, done) =>
    if c.isLower then ([], (c.toNat - 'a'.toNat, text) :: done) else (c :: text, done)) ([], [])).2

/-- How many names come before the one with these words, after a name with the words `before`. -/
def indexIn (wanted : List (List Char)) : List (List Char) → List (Nat × List Char) → Option Nat
  | _, [] => none
  | before, (shared, text) :: rest =>
    let name := before.take shared ++ nameWords text
    if name == wanted then some 0 else (indexIn wanted name rest).map (· + 1)

/-- The code point with a name, if the run has it. -/
def find? (r : NameRun) (wanted : List (List Char)) : Option Nat :=
  (indexIn wanted [] r.entries).map (r.first + ·)

end NameRun

end YamlAudit
