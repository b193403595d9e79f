import YamlAudit.Yaml.Token
import YamlAudit.Decimal.Numeral
import YamlAudit.Text.Utf8

/-!
# Yaml — Fault

What can be wrong with a text.  A `Fault` is a problem, the place where it shows, and what was being
read at the time.  The wording of all faults is kept here: `Fault.message` puts together the
activity, the place where it began, the problem and its place; the place where the activity began is
left out when it is the place of the problem.
-/

namespace YamlAudit.Yaml

/-- The stages of reading, each with faults of its own. -/
inductive Stage where
  | characters
  | tokens
  | grammar
  | references
  | values
  | keys
  | conversion
  /-- A number that is too large for what it is used for. -/
  | range
  | assertion
  deriving DecidableEq, Repr

/-- Where a tag is written: at a node or in a directive. -/
inductive TagPlace where
  | node
  | directive
  deriving DecidableEq, Repr, Inhabited

/-- The name of such a place. -/
def TagPlace.name : TagPlace → String
  | node => "tag"
  | directive => "directive"

/-- What was being read. -/
inductive Activity where
  | nextToken
  | simpleKey
  | quotedScalar
  | doubleQuotedScalar
  | blockScalar
  | anchor
  | alias
  | directive
  | tag
  | verbatimTag
  | handle (place : TagPlace)
  | uri (place : TagPlace)
  | node
  | blockNode
  | flowNode
  | blockMapping
  | blockCollection
  | flowSequence
  | flowMapping
  | stream
  | mapping
  | orderedMap
  | pairs
  deriving DecidableEq, Repr

/-- The wording of an activity. -/
def Activity.text : Activity → String
  | nextToken => "while scanning for the next token"
  | simpleKey => "while scanning a simple key"
  | quotedScalar => "while scanning a quoted scalar"
  | doubleQuotedScalar => "while scanning a double-quoted scalar"
  | blockScalar => "while scanning a block scalar"
  | anchor => "while scanning an anchor"
  | .alias => "while scanning an alias"
  | directive => "while scanning a directive"
  | tag => "while scanning a tag"
  | verbatimTag => "while parsing a tag"
  | handle place => "while scanning an " ++ place.name
  | uri place => "while parsing an " ++ place.name
  | node => "while parsing a node"
  | blockNode => "while parsing a block node"
  | flowNode => "while parsing a flow node"
  | blockMapping => "while parsing a block mapping"
  | blockCollection => "while parsing a block collection"
  | flowSequence => "while parsing a flow sequence"
  | flowMapping => "while parsing a flow mapping"
  | stream => "expected a single document in the stream"
  | mapping => "while constructing a mapping"
  | orderedMap => "while constructing an ordered map"
  | pairs => "while constructing pairs"

/-- The three kinds of node. -/
inductive NodeKind where
  | scalar
  | sequence
  | mapping
  deriving DecidableEq, Repr, Inhabited

/-- The name of a kind of node. -/
def NodeKind.name : NodeKind → String
  | scalar => "scalar"
  | sequence => "sequence"
  | mapping => "mapping"

/-- What is wrong. -/
inductive Problem where
  | inadmissible (c : Char) (position : Nat)
  | strayCharacter (c : Char)
  | missingColon
  | entryHere
  | keyHere
  | valueHere
  | overIndented
  | endOfStream
  | separator
  | unknownEscape (c : Char)
  | shortEscape (digits : Nat) (c : Char)
  | codePointRange
  | codePointSize
  | zeroIndent
  | notBlockHeader (c : Char)
  | notLineEnd (c : Char)
  | notNameChar (c : Char)
  | notVersionDigit (c : Char)
  | notVersionPart (c : Char)
  | notSpace (c : Char)
  | notHandle (c : Char)
  | unclosedHandle (c : Char)
  | notUri (c : Char)
  | shortUriEscape (c : Char)
  | undecodableUri (fault : Utf8Fault)
  /-- Two characters behind a percent sign that are no number. -/
  | notHexadecimal (digits : List Char)
  | unclosedTag (c : Char)
  | expectedDocument (found : TokenKind)
  | afterDocumentEnd (found : TokenKind)
  | noContent (found : TokenKind)
  | noBlockEnd (found : TokenKind)
  | noComma (close : TokenKind) (found : TokenKind)
  | undefinedHandle (handle : String)
  | repeatedVersion
  | foreignVersion
  | unknownMinor (version : Version)
  | repeatedHandle (handle : String)
  | undefinedAlias (name : String)
  | anotherDocument
  | unknownTag (tag : String)
  | wrongKind (expected found : NodeKind)
  | unhashableKey
  | recursiveNode
  | notMergeable (found : NodeKind)
  | notMergeableItem (found : NodeKind)
  | notSequence (found : NodeKind)
  | notSinglePair (found : NodeKind)
  | severalPairs (count : Nat)
  | badTimestamp (text : String)
  | notAscii (run : List Char) (position : Nat)
  | badBase64 (reason : String)
  | repeatedKey (key new old : String)
  | repeatedMerge
  deriving DecidableEq, Repr

namespace Problem

/-- The stage at which a problem shows. -/
def stage : Problem → Stage
  | inadmissible .. => .characters
  | expectedDocument _ | afterDocumentEnd _ | noContent _ | noBlockEnd _ | noComma ..
  | undefinedHandle _ | repeatedVersion | foreignVersion | repeatedHandle _ => .grammar
  | undefinedAlias _ | anotherDocument => .references
  | unknownTag _ | wrongKind .. | unhashableKey | recursiveNode | notMergeable _
  | notMergeableItem _ | notSequence _ | notSinglePair _ | severalPairs _ | badTimestamp _
  | notAscii .. | badBase64 _ => .values
  | repeatedKey .. | repeatedMerge => .keys
  | codePointRange | notHexadecimal _ => .conversion
  | codePointSize => .range
  | unknownMinor _ => .assertion
  | _ => .tokens

/-- A character between quotes. -/
def shown (c : Char) : String := quoted (String.singleton c)

/-- A token between quotes. -/
def shownToken (t : TokenKind) : String := quoted t.name

/-- The wording of a problem. -/
def text : Problem → String
  | inadmissible c position =>
    "unacceptable character #x" ++ String.ofList (hexDigits 4 (codePoint c)) ++ ": special characters are not allowed\n"
      ++ "  in \"<unicode string>\", position " ++ toString position
  | strayCharacter c => "found character " ++ shown c ++ " that cannot start any token"
  | missingColon => "could not find expected ':'"
  | entryHere => "sequence entries are not allowed here"
  | keyHere => "mapping keys are not allowed here"
  | valueHere => "mapping values are not allowed here"
  | overIndented => "more indented follow up line than first in a block scalar"
  | endOfStream => "found unexpected end of stream"
  | separator => "found unexpected document separator"
  | unknownEscape c => "found unknown escape character " ++ shown c
  | shortEscape digits c =>
    "expected escape sequence of " ++ toString digits ++ " hexdecimal numbers, but found "
      ++ shown c
  | codePointRange => "chr() arg not in range(0x110000)"
  | codePointSize => "Python int too large to convert to C int"
  | zeroIndent => "expected indentation indicator in the range 1-9, but found 0"
  | notBlockHeader c => "expected chomping or indentation indicators, but found " ++ shown c
  | notLineEnd c => "expected a comment or a line break, but found " ++ shown c
  | notNameChar c => "expected alphabetic or numeric character, but found " ++ shown c
  | notVersionDigit c => "expected a digit, but found " ++ shown c
  | notVersionPart c => "expected a digit or '.', but found " ++ shown c
  | notSpace c => "expected ' ', but found " ++ shown c
  | notHandle c => "expected '!', but found " ++ shown c
  | unclosedHandle c => "expected '!' but found " ++ shown c
  | notUri c => "expected URI, but found " ++ shown c
  | shortUriEscape c =>
    "expected URI escape sequence of 2 hexdecimal numbers, but found " ++ shown c
  | undecodableUri fault => fault.message
  | notHexadecimal digits => NumeralFault.malformed.message 16 digits
  | unclosedTag c => "expected '>' but found " ++ shown c
  | expectedDocument t => "expected '<document start>', but found (" ++ shownToken t ++ ",)"
  | afterDocumentEnd t =>
    "found non-comment content after document end marker, (" ++ shownToken t ++ ",)"
  | noContent t => "expected the node content, but found " ++ shownToken t
  | noBlockEnd t => "expected <block end>, but found " ++ shownToken t
  | noComma close t => "expected ',' or '" ++ close.name ++ "', but got " ++ shownToken t
  | undefinedHandle handle => "found undefined tag handle " ++ quoted handle
  | repeatedVersion => "found duplicate YAML directive"
  | foreignVersion => "found incompatible YAML document (version 1.* is required)"
  | unknownMinor v =>
    "version minor part can only be 2 or 1, got (" ++ toString v.1 ++ ", " ++ toString v.2 ++ ")"
  | repeatedHandle handle => "duplicate tag handle " ++ quoted handle
  | undefinedAlias name => "found undefined alias " ++ quoted name
  | anotherDocument => "but found another document"
  | unknownTag tag => "could not determine a constructor for the tag " ++ quoted tag
  | wrongKind expected found =>
    "expected a " ++ expected.name ++ " node, but found " ++ found.name
  | unhashableKey => "found unhashable key"
  | recursiveNode => "found unconstructable recursive node"
  | notMergeable found =>
    "expected a mapping or list of mappings for merging, but found " ++ found.name
  | notMergeableItem found => "expected a mapping for merging, but found " ++ found.name
  | notSequence found => "expected a sequence, but found " ++ found.name
  | notSinglePair found => "expected a mapping of length 1, but found " ++ found.name
  | severalPairs count =>
    "expected a single mapping item, but found " ++ toString count ++ " items"
  | badTimestamp value => "failed to construct timestamp from \"" ++ value ++ "\""
  | notAscii run position =>
    let what := match run with
      | [c] => "character '" ++ String.ofList (codePointEscape c) ++ "' in position "
          ++ toString position
      | _ => "characters in position " ++ toString position ++ "-"
          ++ toString (position + run.length - 1)
    "failed to convert base64 data into ascii: 'ascii' codec can't encode " ++ what
      ++ ": ordinal not in range(128)"
  | badBase64 reason => "failed to decode base64 data: " ++ reason
  | repeatedKey key new old =>
    "found duplicate key \"" ++ key ++ "\" with value \"" ++ new ++ "\" (original value: \"" ++ old
      ++ "\")"
  | repeatedMerge => "found duplicate merge key \"<<\""

/-- A remark below some problems. -/
def note : Problem → Option String
  | repeatedKey .. => some ("\nTo suppress this check see:\n"
      ++ "    https://yaml.dev/doc/ruamel.yaml/api/#Duplicate_keys\n")
  | repeatedMerge => some ("Duplicate merge keys are never allowed, not even when\n"
      ++ "\x60.allow_duplicate_keys\x60 is set to True\n")
  | _ => none

end Problem

/-- A problem, its place, and what was being read; the activity may be without a place. -/
structure Fault where
  problem : Problem
  place : Option Mark
  activity : Option (Activity × Option Mark)
  deriving DecidableEq

namespace Fault

/-- A problem by itself. -/
def bare (problem : Problem) (place : Mark) : Fault := ⟨problem, some place, none⟩

/-- A problem that shows while something is read that began earlier. -/
def during (activity : Activity) (began : Mark) (problem : Problem) (place : Mark) : Fault :=
  ⟨problem, some place, some (activity, some began)⟩

/-- Where the activity began, unless the problem is there. -/
def origin (f : Fault) : Option Mark :=
  match f.activity, f.place with
  | some (_, some began), some place => if began.sameSpot place then none else some began
  | some (_, some began), none => some began
  | _, _ => none

/-- The wording of a fault. -/
def message (f : Fault) : String :=
  let parts := [f.activity.map fun a => a.1.text, f.origin.map Mark.text, some f.problem.text,
    f.place.map Mark.text, f.problem.note]
  "\n".intercalate (parts.filterMap id)

end Fault

end YamlAudit.Yaml
