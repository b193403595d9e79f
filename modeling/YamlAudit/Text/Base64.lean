/-!
# Text — Base64

Bytes written in sixty-four characters, four of them for three bytes.  Characters outside of the
alphabet are passed over.  Padding that fills up the last group of four ends the text; a group that
is left incomplete is a fault.
-/

namespace YamlAudit

/-- The six bits a character stands for. -/
def base64Digit? (c : Char) : Option Nat :=
  let n := c.toNat
  if 'A' ≤ c && c ≤ 'Z' then some (n - 'A'.toNat)
  else if 'a' ≤ c && c ≤ 'z' then some (n - 'a'.toNat + 26)
  else if '0' ≤ c && c ≤ '9' then some (n - '0'.toNat + 52)
  else if c = '+' then some 62
  else if c = '/' then some 63
  else none

/-- What is wrong with a text that is not base64. -/
inductive Base64Fault where
  | padding
  /-- One character is left over after so many others. -/
  | leftOver (characters : Nat)
  deriving DecidableEq, Repr

/-- The wording of a fault. -/
def Base64Fault.message : Base64Fault → String
  | padding => "Incorrect padding"
  | leftOver characters =>
    "Invalid base64-encoded string: number of data characters (" ++ toString characters
      ++ ") cannot be 1 more than a multiple of 4"

/-- A text read so far: the place in the group of four, bits not yet in a byte, padding since the
last character of the alphabet, and the bytes, backwards. -/
structure Base64State where
  place : Nat
  bits : Nat
  pads : Nat
  rev : List UInt8

/-- The state after six more bits. -/
def Base64State.add (s : Base64State) (d : Nat) : Base64State :=
  match s.place with
  | 0 => ⟨1, d, 0, s.rev⟩
  | 1 => ⟨2, d % 16, 0, UInt8.ofNat (s.bits * 4 + d / 16) :: s.rev⟩
  | 2 => ⟨3, d % 4, 0, UInt8.ofNat (s.bits * 16 + d / 4) :: s.rev⟩
  | _ => ⟨0, 0, 0, UInt8.ofNat (s.bits * 64 + d) :: s.rev⟩

/-- Decodes the rest of a text. -/
def decodeBase64From (s : Base64State) : List Char → Except Base64Fault (List UInt8)
  | [] =>
    if s.place = 0 then .ok s.rev.reverse
    else if s.place = 1 then .error (.leftOver (s.rev.length / 3 * 4 + 1))
    else .error .padding
  | c :: rest =>
    if c = '=' then
      if 2 ≤ s.place then
        if 4 ≤ s.place + s.pads + 1 then .ok s.rev.reverse
        else decodeBase64From { s with pads := s.pads + 1 } rest
      else decodeBase64From s rest
    else match base64Digit? c with
      | some d => decodeBase64From (s.add d) rest
      | none => decodeBase64From s rest

/-- The bytes of a text in base64. -/
def decodeBase64 (cs : List Char) : Except Base64Fault (List UInt8) :=
  decodeBase64From ⟨0, 0, 0, []⟩ cs

end YamlAudit
