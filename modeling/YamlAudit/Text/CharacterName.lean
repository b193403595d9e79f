import YamlAudit.Text.CodePoint
import YamlAudit.Text.CharacterName.Alias
import YamlAudit.Text.CharacterName.Alphabets
import YamlAudit.Text.CharacterName.Ancient
import YamlAudit.Text.CharacterName.EastAsia
import YamlAudit.Text.CharacterName.Notation
import YamlAudit.Text.CharacterName.Pictures
import YamlAudit.Text.CharacterName.Scripts
import YamlAudit.Text.CharacterName.Signs
import YamlAudit.Text.CharacterName.Symbols

/-!
# Text — CharacterName

Characters by their names.  Most names are written down in runs; ideographs are named by their code
points and Hangul syllables by the letters they are put together from.  A small letter in a name is as
good as a capital, except for ideographs and Hangul syllables.
-/

namespace YamlAudit

/-- The names that are written down. -/
def nameRuns : List NameRun :=
  alphabetsNames ++ scriptsNames ++ symbolsNames ++ eastAsiaNames ++ ancientNames ++ signsNames
    ++ notationNames ++ picturesNames

/-- Runs of characters that are named by their code points. -/
def numberedNames : List (String × Nat × Nat) :=
  [
    ("CJK COMPATIBILITY IDEOGRAPH-", 0xF900, 0xFA6D), ("CJK COMPATIBILITY IDEOGRAPH-", 0xFA70, 0xFAD9),
    ("KHITAN SMALL SCRIPT CHARACTER-", 0x18B00, 0x18CD5), ("NUSHU CHARACTER-", 0x1B170, 0x1B2FB),
    ("CJK COMPATIBILITY IDEOGRAPH-", 0x2F800, 0x2FA1D)
  ]

/-- The ideographs. -/
def ideographs : List (Nat × Nat) :=
  [
    (0x3400, 0x4DBF), (0x4E00, 0x9FFF), (0x20000, 0x2A6DF), (0x2A700, 0x2B738), (0x2B740, 0x2B81D),
    (0x2B820, 0x2CEA1), (0x2CEB0, 0x2EBE0), (0x30000, 0x3134A)
  ]

/-- What follows in a text after another one. -/
def textAfter? (start : String) (text : List Char) : Option (List Char) :=
  if start.toList.isPrefixOf text then some (text.drop start.length) else none

/-- A number of four or five hexadecimal digits, the letters among them capitals. -/
def namedNumber? (digits : List Char) : Option Nat :=
  if (digits.length == 4 || digits.length == 5) && !digits.any Char.isLower then
    digits.foldlM (fun n d => (hexDigit? d).map (16 * n + ·)) 0
  else none

/-- The ideograph of a number. -/
def ideograph? (digits : List Char) : Option Nat := do
  let n ← namedNumber? digits
  if ideographs.any fun r => r.1 ≤ n && n ≤ r.2 then some n else none

/-- The character with a name that ends in its code point. -/
def numbered? (name : List Char) : Option Nat :=
  numberedNames.findSome? fun (start, first, last) => do
    let digits ← textAfter? start name
    let n ← namedNumber? digits
    let size : Nat := if n < 0x10000 then 4 else 5
    if first ≤ n && n ≤ last && digits.length == size then some n else none

/-! ### Hangul -/

/-- The letters that begin a syllable. -/
def hangulLeads : List String :=
  ["G", "GG", "N", "D", "DD", "R", "M", "B", "BB", "S", "SS", "", "J", "JJ", "C", "K", "T", "P", "H"]

/-- The vowels of a syllable. -/
def hangulVowels : List String :=
  [
    "A", "AE", "YA", "YAE", "EO", "E", "YEO", "YE", "O", "WA", "WAE", "OE", "YO", "U", "WEO", "WE",
    "WI", "YU", "EU", "YI", "I"
  ]

/-- The letters that end a syllable. -/
def hangulTails : List String :=
  [
    "", "G", "GG", "GS", "N", "NJ", "NH", "D", "L", "LG", "LM", "LB", "LS", "LT", "LP", "LH", "M", "B",
    "BS", "S", "SS", "NG", "J", "C", "K", "T", "P", "H"
  ]

/-- The index of the longest of some texts that a text begins with, and what follows it. -/
def longestLetter? (letters : List String) (text : List Char) : Option (Nat × List Char) :=
  letters.zipIdx.foldl (fun best (letter, i) =>
    match textAfter? letter text, best with
    | some rest, some (j, shortest) =>
      if rest.length < shortest.length then some (i, rest) else some (j, shortest)
    | some rest, none => some (i, rest)
    | none, _ => best) none

/-- The syllable with a name. -/
def hangulSyllable? (name : List Char) : Option Nat := do
  let (lead, rest) ← longestLetter? hangulLeads name
  let (vowel, rest) ← longestLetter? hangulVowels rest
  let (tail, rest) ← longestLetter? hangulTails rest
  if rest.isEmpty then
    some (0xAC00 + (lead * hangulVowels.length + vowel) * hangulTails.length + tail)
  else none

/-! ### All names -/

/-- The variation selector with an abbreviation. -/
def variationSelector? (name : List Char) : Option Nat := do
  let digits ← textAfter? "VS" name
  variationSelectors.findSome? fun (first, count, code) =>
    (List.range count).findSome? fun i =>
      if (toString (first + i)).toList == digits then some (code + i) else none

/-- The character with a name in capitals. -/
def capitalName? (name : List Char) : Option Nat :=
  let text := String.ofList name
  (variationSelector? name).or
    ((characterAliases.find? fun a => a.2.contains text).map (·.1)
      |>.or (numbered? name)
      |>.or (nameRuns.findSome? fun r => r.find? (nameWords name)))

/-- The code point of the character with a name. -/
def characterNamed? (name : List Char) : Option Nat :=
  match textAfter? "HANGUL SYLLABLE " name with
  | some letters => hangulSyllable? letters
  | none =>
    match textAfter? "CJK UNIFIED IDEOGRAPH-" name with
    | some digits => ideograph? digits
    | none => capitalName? (name.map Char.toUpper)

end YamlAudit
