/-!
# Text — CodePoint

Characters by their code points.  A text may hold halves of surrogate pairs, which are code points but
no characters.  Each is kept as the private character `0x100000` further on, and that character then
always stands for it; every other character stands for its own code point.
-/

namespace YamlAudit

/-- Whether a code point is half of a surrogate pair. -/
def isSurrogate (n : Nat) : Bool := 0xD800 ≤ n && n ≤ 0xDFFF

/-- How far the characters that are kept for halves of pairs are from them. -/
def surrogateShift : Nat := 0x100000

/-- The character that is kept for a code point. -/
def charOfCode (n : Nat) : Char :=
  if isSurrogate n then Char.ofNat (n + surrogateShift) else Char.ofNat n

/-- The code point that a character is kept for. -/
def codePoint (c : Char) : Nat :=
  if surrogateShift ≤ c.toNat && isSurrogate (c.toNat - surrogateShift) then
    c.toNat - surrogateShift
  else c.toNat

/-- Whether a text comes before another by code points. -/
def textBefore (a b : String) : Bool := decide (a.toList.map codePoint < b.toList.map codePoint)

/-- The value of a hexadecimal digit. -/
def hexDigit? (c : Char) : Option Nat :=
  if '0' ≤ c && c ≤ '9' then some (c.toNat - '0'.toNat)
  else if 'a' ≤ c && c ≤ 'f' then some (c.toNat - 'a'.toNat + 10)
  else if 'A' ≤ c && c ≤ 'F' then some (c.toNat - 'A'.toNat + 10)
  else none

end YamlAudit
