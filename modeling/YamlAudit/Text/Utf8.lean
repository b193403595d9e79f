import YamlAudit.Text.Quoted

/-!
# Text — Utf8

Bytes as text.  A byte below 128 is a character by itself; a lead byte announces one to three
continuation bytes, the first of which may be restricted so that every character has one form only
(`continuationRange`).  `decodeUtf8` gives the characters or the first stretch of bytes that is no
character: a byte that may not lead, a lead with the continuation bytes before the first bad one, or
whatever is left when the bytes end too soon.
-/

namespace YamlAudit

/-- What is wrong with a stretch of bytes. -/
inductive Utf8Defect where
  | startByte
  | continuationByte
  | endOfData
  deriving DecidableEq, Repr

/-- A stretch of bytes that is no character. -/
structure Utf8Fault where
  position : Nat
  bytes : List UInt8
  defect : Utf8Defect
  deriving DecidableEq, Repr

/-- The wording of a defect. -/
def Utf8Defect.message : Utf8Defect → String
  | startByte => "invalid start byte"
  | continuationByte => "invalid continuation byte"
  | endOfData => "unexpected end of data"

/-- A single byte is shown, several are given by their positions. -/
def Utf8Fault.message (f : Utf8Fault) : String :=
  let place := match f.bytes with
    | [b] => "byte 0x" ++ String.ofList (hexDigits 2 b.toNat) ++ " in position "
        ++ toString f.position
    | bytes => "bytes in position " ++ toString f.position ++ "-"
        ++ toString (f.position + bytes.length - 1)
  "'utf-8' codec can't decode " ++ place ++ ": " ++ f.defect.message

/-- The number of continuation bytes after a lead byte, and the bits the lead contributes. -/
def leadByte? (b : UInt8) : Option (Nat × Nat) :=
  let n := b.toNat
  if n < 0x80 then some (0, n)
  else if 0xC2 ≤ n && n ≤ 0xDF then some (1, n - 0xC0)
  else if 0xE0 ≤ n && n ≤ 0xEF then some (2, n - 0xE0)
  else if 0xF0 ≤ n && n ≤ 0xF4 then some (3, n - 0xF0)
  else none

/-- The bytes allowed right after a lead byte: neither a form that is too long, nor a surrogate, nor
a code point beyond the last. -/
def continuationRange (lead : UInt8) : Nat × Nat :=
  match lead.toNat with
  | 0xE0 => (0xA0, 0xBF)
  | 0xED => (0x80, 0x9F)
  | 0xF0 => (0x90, 0xBF)
  | 0xF4 => (0x80, 0x8F)
  | _ => (0x80, 0xBF)

/-- Reads `count` continuation bytes onto `code`; otherwise how many were good, and the defect. -/
def continuation (allowed : Nat × Nat) (code good : Nat) :
    Nat → List UInt8 → Except (Nat × Utf8Defect) (Nat × List UInt8)
  | 0, bytes => .ok (code, bytes)
  | _ + 1, [] => .error (good, .endOfData)
  | count + 1, b :: rest =>
    if allowed.1 ≤ b.toNat && b.toNat ≤ allowed.2 then
      continuation (0x80, 0xBF) (64 * code + (b.toNat - 0x80)) (good + 1) count rest
    else .error (good, .continuationByte)

/-- Decodes bytes from `position` on, with room for `fuel` characters. -/
def decodeUtf8From : Nat → Nat → List UInt8 → Except Utf8Fault (List Char)
  | _, _, [] => .ok []
  | 0, _, _ => .ok []
  | fuel + 1, position, lead :: rest =>
    match leadByte? lead with
    | none => .error ⟨position, [lead], .startByte⟩
    | some (count, bits) =>
      match continuation (continuationRange lead) bits 0 count rest with
      | .error (good, defect) => .error ⟨position, lead :: rest.take good, defect⟩
      | .ok (code, after) =>
        (decodeUtf8From fuel (position + count + 1) after).map (Char.ofNat code :: ·)

/-- The characters that bytes stand for. -/
def decodeUtf8 (bytes : List UInt8) : Except Utf8Fault (List Char) :=
  decodeUtf8From bytes.length 0 bytes

/-- Every line break, be it a line feed, a carriage return or both, as a line feed. -/
def withLineFeeds : List Char → List Char
  | [] => []
  | '\r' :: '\n' :: rest => '\n' :: withLineFeeds rest
  | '\r' :: rest => '\n' :: withLineFeeds rest
  | c :: rest => c :: withLineFeeds rest

end YamlAudit
