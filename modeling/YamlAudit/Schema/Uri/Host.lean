import YamlAudit.Text.Quoted

/-!
# Schema.Uri — Host

The authority of a name.  A host between square brackets is an address of version six, or begins with
a version of its own; an authority must not have characters in it that a compatible spelling turns
into delimiters.
-/

namespace YamlAudit

/-- Why a text is no name. -/
inductive UriFault where
  /-- A square bracket without its partner. -/
  | loneBracket
  /-- A host that begins with a version and is otherwise not in order. -/
  | futureAddress
  | notAddress (host : String)
  /-- An address of version four between brackets. -/
  | bracketedOld
  /-- An authority with a character that stands for a delimiter. -/
  | disguisedDelimiter (authority : String)
  deriving DecidableEq, Repr

/-- The wording of a fault. -/
def UriFault.message : UriFault → String
  | loneBracket => "Invalid IPv6 URL"
  | futureAddress => "IPvFuture address is invalid"
  | notAddress host => quoted host ++ " does not appear to be an IPv4 or IPv6 address"
  | bracketedOld => "An IPv4 address cannot be in brackets"
  | disguisedDelimiter authority =>
    "netloc '" ++ authority ++ "' contains invalid characters under NFKC normalization"

namespace Host

/-- The stretches of a text between a delimiter. -/
def pieces (delimiter : Char) : List Char → List (List Char)
  | [] => [[]]
  | c :: rest =>
    if c = delimiter then [] :: pieces delimiter rest
    else match pieces delimiter rest with
      | first :: more => (c :: first) :: more
      | [] => [[c]]

/-- Whether a text is a number up to 255 without leading zeros. -/
def isOctet (cs : List Char) : Bool :=
  !cs.isEmpty && cs.length ≤ 3 && cs.all Char.isDigit && (cs = ['0'] || cs.head? ≠ some '0')
    && cs.foldl (fun n c => 10 * n + (c.toNat - '0'.toNat)) 0 ≤ 255

/-- Whether a text is an address of version four. -/
def isVersionFour (cs : List Char) : Bool :=
  let octets := pieces '.' cs
  octets.length == 4 && octets.all isOctet

/-- Whether a text has one to four hexadecimal digits. -/
def isHextet (cs : List Char) : Bool :=
  !cs.isEmpty && cs.length ≤ 4 && cs.all fun c => (hexDigit? c).isSome

/-- The parts of an address between its colons, an address of version four at the end counting as two
parts. -/
def hextets? (cs : List Char) : Option (List (List Char)) :=
  let parts := pieces ':' cs
  let last := parts.getLast?.getD []
  if parts.length < 3 then none
  else if last.contains '.' then
    if isVersionFour last then some (parts.dropLast ++ [['0'], ['0']]) else none
  else some parts

/-- Whether the parts of an address are in order: eight of them, or fewer with one stretch left out;
at the ends of an address that stretch leaves an empty part more. -/
def areInOrder (parts : List (List Char)) : Bool :=
  let gap := parts.tail.dropLast.findIdx? List.isEmpty
  match gap with
  | none => parts.length == 8 && parts.all isHextet
  | some i =>
    let front := parts.take (i + 1)
    let back := parts.drop (i + 2)
    let settled (side : List (List Char)) : List (List Char) := if side = [[]] then [] else side
    let front := settled front
    let back := settled back
    parts.length ≤ 9 && front.length + back.length ≤ 7 && (front ++ back).all isHextet

/-- Whether a text is an address of version six, perhaps with a zone. -/
def isVersionSix (cs : List Char) : Bool :=
  let (address, zone) := cs.span (· != '%')
  let zoned : Bool := match zone with
    | [] => true
    | _ :: name => !name.isEmpty && !name.contains '%'
  zoned && match hextets? address with
    | some parts => areInOrder parts
    | none => false

/-- Whether a text begins with a version of its own and a point, and goes on. -/
def isFuture (cs : List Char) : Bool :=
  let digits := cs.tail.takeWhile fun c => (hexDigit? c).isSome
  !digits.isEmpty && match cs.drop (digits.length + 1) with
    | '.' :: _ :: _ => true
    | _ => false

/-- Checks what stands between square brackets. -/
def check (host : List Char) : Except UriFault Unit :=
  if host.head? = some 'v' then
    if isFuture host then .ok () else .error .futureAddress
  else if isVersionFour host then .error .bracketedOld
  else if isVersionSix host then .ok ()
  else .error (.notAddress (String.ofList host))

/-- The characters whose compatible spelling has a delimiter in it. -/
def disguises : List Nat :=
  [0x2047, 0x2048, 0x2049, 0x2100, 0x2101, 0x2105, 0x2106, 0x2A74, 0xFE13, 0xFE16, 0xFE55, 0xFE56,
    0xFE5F, 0xFE6B, 0xFF03, 0xFF0F, 0xFF1A, 0xFF1F, 0xFF20]

end Host

/-- Checks the brackets of an authority. -/
def checkBrackets (authority : List Char) : Except UriFault Unit :=
  if authority.contains '[' != authority.contains ']' then .error .loneBracket
  else match authority.dropWhile (· != '[') with
    | _ :: rest => Host.check (rest.takeWhile (· != ']'))
    | [] => .ok ()

/-- Checks an authority for delimiters in disguise. -/
def checkDelimiters (authority : List Char) : Except UriFault Unit :=
  if authority.any fun c => Host.disguises.contains c.toNat then
    .error (.disguisedDelimiter (String.ofList authority))
  else .ok ()

end YamlAudit
