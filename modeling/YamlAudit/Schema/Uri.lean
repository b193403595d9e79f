import YamlAudit.Schema.Uri.Host
import YamlAudit.Text.Utf8

/-!
# Schema — Uri

The names of schema documents.  A reference is resolved against the name of the document it stands
in (`Uri.join`), and its fragment is taken off (`Uri.withoutFragment`) and may have characters given
as hexadecimal bytes (`percentDecoded`).  The schemes decide which names form a hierarchy, which have
an authority and which have parameters behind the last segment of their path.
-/

namespace YamlAudit

/-- The parts of a name. -/
structure Uri where
  scheme : String
  authority : List Char
  path : List Char
  /-- What follows a semicolon in the last segment of the path. -/
  parameters : List Char
  query : List Char
  fragment : List Char
  deriving DecidableEq, Repr

namespace Uri

/-- The schemes whose names form a hierarchy. -/
def hierarchical : List String :=
  ["", "ftp", "http", "gopher", "nntp", "imap", "wais", "file", "https", "shttp", "mms", "prospero",
    "rtsp", "rtsps", "rtspu", "sftp", "svn", "svn+ssh", "ws", "wss"]

/-- The schemes whose names have an authority, be it an empty one. -/
def authoritative : List String :=
  hierarchical ++ ["telnet", "snews", "rsync", "nfs", "git", "git+ssh"]

/-- The schemes whose names have parameters. -/
def parametric : List String :=
  ["", "ftp", "hdl", "prospero", "http", "imap", "https", "shttp", "rtsp", "rtsps", "rtspu", "sip",
    "sips", "mms", "sftp", "tel"]

/-! ### Taking names apart -/

/-- The text in front of the first of some characters, and the rest. -/
def cut (stops : List Char) (cs : List Char) : List Char × List Char :=
  cs.span fun c => !stops.contains c

/-- Splits off a scheme. -/
def takeScheme? (cs : List Char) : Option (String × List Char) :=
  let (front, rest) := cut [':'] cs
  let schemeChar (c : Char) : Bool := c.isAlphanum || c == '+' || c == '-' || c == '.'
  match front, rest with
  | c :: _, ':' :: after =>
    if c.isAlpha && front.all schemeChar then some (String.ofList (front.map Char.toLower), after)
    else none
  | _, _ => none

/-- The parts of a text, parameters left in the path; without a scheme of its own it has the given
one.  Line breaks and tabs in it do not count, nor do spaces and controls in front. -/
def split (scheme : String) (s : String) : Except UriFault Uri := do
  let cs := (s.toList.dropWhile fun c => c.toNat ≤ 0x20).filter fun c =>
    c != '\t' && c != '\n' && c != '\r'
  let (scheme, rest) := (takeScheme? cs).getD (scheme, cs)
  let (authority, rest) := match rest with
    | '/' :: '/' :: more => cut ['/', '?', '#'] more
    | _ => ([], rest)
  checkBrackets authority
  let (rest, fragment) := cut ['#'] rest
  let (path, query) := cut ['?'] rest
  checkDelimiters authority
  return ⟨scheme, authority, path, [], query.tail, fragment.tail⟩

/-- Splits the parameters off a path. -/
def cutParameters (path : List Char) : List Char × List Char :=
  let segment := (path.reverse.takeWhile (· != '/')).reverse
  let (last, parameters) := cut [';'] segment
  (path.take (path.length - segment.length) ++ last, parameters.tail)

/-- The parts of a text. -/
def ofText (scheme : String) (s : String) : Except UriFault Uri := do
  let u ← split scheme s
  if parametric.contains u.scheme then
    let (path, parameters) := cutParameters u.path
    return { u with path, parameters }
  else return u

/-- A name from its parts; empty parts leave no trace, but for the authority of a scheme that has
one. -/
def text (u : Uri) : String :=
  let path := if u.parameters.isEmpty then u.path else u.path ++ ';' :: u.parameters
  let rooted := match path with
    | [] | '/' :: _ => path
    | _ => '/' :: path
  let doubled : Bool := match path with
    | '/' :: '/' :: _ => true
    | _ => false
  let shown := !u.authority.isEmpty || (u.scheme ≠ "" && authoritative.contains u.scheme) || doubled
  let place := if shown then '/' :: '/' :: (u.authority ++ rooted) else path
  let scheme := if u.scheme = "" then [] else u.scheme.toList ++ [':']
  let query := if u.query.isEmpty then [] else '?' :: u.query
  let fragment := if u.fragment.isEmpty then [] else '#' :: u.fragment
  String.ofList (scheme ++ place ++ query ++ fragment)

/-- A name in its usual spelling, without an empty query or fragment. -/
def normal (s : String) : Except UriFault String := (split "" s).map text

/-! ### References -/

/-- Follows the segments that go up or stay; `done` is in reverse. -/
def settle : List (List Char) → List (List Char) → List (List Char)
  | done, [] => done.reverse
  | done, ['.', '.'] :: rest => settle done.tail rest
  | done, ['.'] :: rest => settle done rest
  | done, s :: rest => settle (s :: done) rest

/-- The path of a reference against the path of its document. -/
def joinPath (base path : List Char) : List Char :=
  let segments := Host.pieces '/'
  let all := match path with
    | '/' :: _ => segments path
    | _ =>
      let front := match (segments base).reverse with
        | [] :: rest => [] :: rest
        | _ :: rest => rest
        | [] => []
      match front.reverse ++ segments path with
      | first :: rest =>
        first :: (rest.dropLast.filter fun s => !s.isEmpty) ++ rest.getLast?.toList
      | [] => []
  let last := all.getLast?.getD []
  let tail : List (List Char) := if last = ['.'] ∨ last = ['.', '.'] then [[]] else []
  match List.intercalate ['/'] (settle [] all ++ tail) with
  | [] => ['/']
  | joined => joined

/-- What a reference names in a document with a name of its own. -/
def join (base reference : String) : Except UriFault String := do
  if base = "" then return reference
  if reference = "" then return base
  let b ← ofText "" base
  let r ← ofText b.scheme reference
  if r.scheme ≠ b.scheme || !hierarchical.contains r.scheme then return reference
  if !r.authority.isEmpty then return r.text
  if r.path.isEmpty && r.parameters.isEmpty then
    let query := if r.query.isEmpty then b.query else r.query
    return { b with query, fragment := r.fragment }.text
  return { r with authority := b.authority, path := joinPath b.path r.path }.text

/-- A name and its fragment. -/
def withoutFragment (s : String) : Except UriFault (String × String) := do
  if s.toList.contains '#' then
    let u ← ofText "" s
    return ({ u with fragment := [] }.text, String.ofList u.fragment)
  else return (s, "")

/-- A name without the number signs at its end. -/
def trimmed (s : String) : String :=
  String.ofList (s.toList.reverse.dropWhile (· == '#')).reverse

end Uri

/-! ### Fragments -/

/-- The bytes of a text in which bytes may be given in hexadecimal after a percent sign. -/
def percentBytes : List Char → List UInt8
  | [] => []
  | '%' :: a :: b :: rest =>
    match hexDigit? a, hexDigit? b with
    | some x, some y => UInt8.ofNat (16 * x + y) :: percentBytes rest
    | _, _ => '%'.toUInt8 :: percentBytes (a :: b :: rest)
  | c :: rest => (String.singleton c).toUTF8.toList ++ percentBytes rest

/-- Bytes as text; where they are none, a replacement character stands for each stretch. -/
def decodedLeniently : Nat → List UInt8 → List Char
  | 0, _ => []
  | fuel + 1, bytes =>
    match decodeUtf8 bytes with
    | .ok cs => cs
    | .error f =>
      let good := match decodeUtf8 (bytes.take f.position) with
        | .ok cs => cs
        | .error _ => []
      good ++ '\uFFFD' :: decodedLeniently fuel (bytes.drop (f.position + f.bytes.length))

/-- A text with its hexadecimal bytes decoded. -/
def percentDecoded (s : String) : String :=
  let bytes := percentBytes s.toList
  String.ofList (decodedLeniently (bytes.length + 1) bytes)

end YamlAudit
