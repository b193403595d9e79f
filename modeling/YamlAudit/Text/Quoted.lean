import YamlAudit.Text.CodePoint
import YamlAudit.Text.Printable

/-!
# Text — Quoted

A text between quotes, as it stands in messages.  Single quotes are used unless the text has one and
no double quote.  The quote in use and the backslash are escaped, line feed, carriage return and tab
have letters, and any other character that is not printable is given by its code point in two, four
or eight hexadecimal digits.
-/

namespace YamlAudit

/-- The last `width` hexadecimal digits of a number, in lower case. -/
def hexDigits (width n : Nat) : List Char :=
  match width with
  | 0 => []
  | w + 1 => hexDigits w (n / 16) ++ [Nat.digitChar (n % 16)]

/-- The code point of a character after a backslash. -/
def codePointEscape (c : Char) : List Char :=
  let n := codePoint c
  if n < 0x100 then '\\' :: 'x' :: hexDigits 2 n
  else if n < 0x10000 then '\\' :: 'u' :: hexDigits 4 n
  else '\\' :: 'U' :: hexDigits 8 n

/-- A character of a text between `quote` characters. -/
def quoteChar (quote c : Char) : List Char :=
  if c = quote ∨ c = '\\' then ['\\', c]
  else if c = '\n' then ['\\', 'n']
  else if c = '\r' then ['\\', 'r']
  else if c = '\t' then ['\\', 't']
  else if isPrintable c then [c]
  else codePointEscape c

/-- The quote a text is put into. -/
def quoteFor (cs : List Char) : Char :=
  if cs.contains '\'' && !cs.contains '"' then '"' else '\''

/-- A text between quotes. -/
def quoted (s : String) : String :=
  let cs := s.toList
  let q := quoteFor cs
  String.ofList (q :: (cs.flatMap (quoteChar q) ++ [q]))

/-- Bytes between quotes after a `b`; those outside printable ASCII are given in hexadecimal. -/
def quotedBytes (bytes : List UInt8) : String :=
  let cs := bytes.map fun b => Char.ofNat b.toNat
  let q := quoteFor cs
  let byteChar (c : Char) : List Char :=
    if c.toNat < 0x7F then quoteChar q c else codePointEscape c
  String.ofList ('b' :: q :: (cs.flatMap byteChar ++ [q]))

end YamlAudit
