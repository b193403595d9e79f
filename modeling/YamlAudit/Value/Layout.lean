import YamlAudit.Text.Blank
import YamlAudit.Value.Compare
import YamlAudit.Value.Literal

/-!
# Value — Layout

Literals on several lines.  What does not fit into a line is broken up: a container has a line for
each of its items, a text a line for each line in it or for as many words as fit, and bytes are taken
in groups of four.  A text or bytes that are not inside a container stand between parentheses then.
-/

namespace YamlAudit

/-- How many characters a line may have. -/
def layoutWidth : Int := 72

/-- What is left of a line: the column that lines begin in, and how many characters have to follow
the last of them. -/
structure LineRoom where
  column : Nat
  reserved : Nat
  deriving DecidableEq, Repr

namespace LineRoom

/-- The characters for lines that nothing has to follow. -/
def width (r : LineRoom) : Int := layoutWidth - r.column

/-- The characters for the last line. -/
def lastWidth (r : LineRoom) : Int := r.width - r.reserved

/-- Further to the right, and with more to follow. -/
def within (r : LineRoom) (right more : Nat) : LineRoom := ⟨r.column + right, r.reserved + more⟩

/-- For something that only a comma follows. -/
def beforeComma (r : LineRoom) : LineRoom := { r with reserved := 1 }

/-- The break between two lines. -/
def lineBreak (r : LineRoom) : String := "\n" ++ String.ofList (List.replicate r.column ' ')

end LineRoom

/-! ### Texts and bytes -/

/-- Whether a line ends with a character. -/
def endsLine (c : Char) : Bool :=
  let n := c.toNat
  (0xA ≤ n && n ≤ 0xD) || (0x1C ≤ n && n ≤ 0x1E) || n == 0x85 || n == 0x2028 || n == 0x2029

/-- The lines of a text with the characters that end them; `line` is the one begun, in reverse. -/
def linesOf : List Char → List Char → List (List Char)
  | [], [] => []
  | line, [] => [line.reverse]
  | line, '\r' :: '\n' :: rest => ('\n' :: '\r' :: line).reverse :: linesOf [] rest
  | line, c :: rest =>
    if endsLine c then (c :: line).reverse :: linesOf [] rest else linesOf (c :: line) rest

/-- The words of a text, each with the white space behind it; `word` is the one begun, in reverse. -/
def wordsOf : List Char → List Char → List (List Char)
  | [], [] => []
  | word, [] => [word.reverse]
  | word, c :: rest =>
    match word with
    | last :: _ =>
      if isSpace last && !isSpace c then word.reverse :: wordsOf [c] rest else wordsOf (c :: word) rest
    | [] => wordsOf [c] rest

/-- Joins pieces as long as the literal of what is joined fits; the last piece has other room. -/
def filled {α : Type} (literal : List α → String) (width lastWidth : Int) :
    List α → List (List α) → List String
  | current, [] => if current.isEmpty then [] else [literal current]
  | current, piece :: rest =>
    let candidate := current ++ piece
    if (literal candidate).length > (if rest.isEmpty then lastWidth else width) then
      (if current.isEmpty then [] else [literal current]) ++ filled literal width lastWidth piece rest
    else filled literal width lastWidth candidate rest

/-- The literal of some characters. -/
def charsLiteral (cs : List Char) : String := quoted (String.ofList cs)

/-- The literals of the lines of a text. -/
def textChunks (r : LineRoom) : List (List Char) → List String
  | [] => []
  | line :: rest =>
    let last := if rest.isEmpty then r.lastWidth else r.width
    (if (charsLiteral line).length ≤ last then [charsLiteral line]
    else filled charsLiteral r.width last [] (wordsOf [] line)) ++ textChunks r rest

/-- Literals below one another. -/
def LineRoom.stacked (r : LineRoom) (literals : List String) : String := r.lineBreak.intercalate literals

/-- The layout of a text. -/
def textLayout (r : LineRoom) (outermost : Bool) (text : String) : String :=
  let inner := if outermost then r.within 1 1 else r
  match textChunks inner (linesOf [] text.toList) with
  | [] => quoted text
  | [one] => one
  | chunks => if outermost then "(" ++ inner.stacked chunks ++ ")" else inner.stacked chunks

/-- Bytes in groups of four, and behind a full last group one without any. -/
def groupsOfFour : List UInt8 → List (List UInt8)
  | a :: b :: c :: d :: rest => [a, b, c, d] :: groupsOfFour rest
  | few => [few]

/-- The layout of bytes. -/
def bytesLayout (r : LineRoom) (outermost : Bool) (bytes : List UInt8) : String :=
  if bytes.length ≤ 4 then quotedBytes bytes
  else
    let inner := if outermost then r.within 1 1 else r
    let chunks := filled quotedBytes inner.width inner.lastWidth [] (groupsOfFour bytes)
    if outermost then "(" ++ inner.stacked chunks ++ ")" else inner.stacked chunks

/-! ### Containers -/

/-- Items below one another; `place` writes an item into some room. -/
def itemsLayout {α : Type} (place : LineRoom → α → String) (r : LineRoom) : List α → String
  | [] => ""
  | [item] => place r item
  | item :: rest =>
    place r.beforeComma item ++ "," ++ r.lineBreak ++ itemsLayout place r rest

/-- The layout of a value whose containers are in `s`, inside the containers `around`. -/
def layoutFrom (s : Store) : Nat → Bool → List Nat → LineRoom → Value → String
  | 0, _, _, _, _ => "..."
  | fuel + 1, outermost, around, r, v =>
    let literal := literalFrom s s.room around v
    if literal.length ≤ r.lastWidth then literal
    else
      match v with
      | .text t => textLayout r outermost t
      | .bytes bs => bytesLayout r outermost bs
      | .tuple [item] => "(" ++ layoutFrom s fuel false around (r.within 1 2) item ++ ",)"
      | .tuple items =>
        "(" ++ itemsLayout (layoutFrom s fuel false around) (r.within 1 1) items ++ ")"
      | .ref n =>
        let inside := n :: around
        let write := layoutFrom s fuel false inside
        if around.contains n then literal
        else match s.get n with
          | .list items => "[" ++ itemsLayout write (r.within 1 1) items ++ "]"
          | .set items =>
            let less := lessFrom s comparisonDepth
            let sorted := (sorted? less items.length items).getD items
            if items.isEmpty then literal
            else braced (itemsLayout write (r.within 1 1) sorted)
          | .mapping es =>
            let entry (r : LineRoom) (e : Value × Value) : String :=
              let key := literalFrom s s.room inside e.1 ++ ": "
              key ++ write (r.within key.length 0) e.2
            braced (itemsLayout entry (r.within 1 1) es)
          | .ordered es =>
            let inner := r.within "ordereddict(".length 1
            let pairs := es.map fun e => Value.tuple [e.1, e.2]
            let literals := pairs.map (literalFrom s s.room inside)
            let line := "[" ++ listed literals ++ "]"
            if es.isEmpty then literal
            else if line.length ≤ inner.lastWidth then "ordereddict(" ++ line ++ ")"
            else "ordereddict([" ++ itemsLayout write (inner.within 1 1) pairs ++ "])"
      | _ => literal

mutual

/-- How many tuples lie inside one another in a value. -/
def Value.nesting : Value → Nat
  | .tuple items => nestingOf items + 1
  | _ => 0

/-- How many do in one of several values. -/
def nestingOf : List Value → Nat
  | [] => 0
  | v :: rest => max v.nesting (nestingOf rest)

end

/-- How many tuples lie inside one another in what a container holds; an entry with order is one
itself. -/
def Container.nesting : Container → Nat
  | .list items | .set items => nestingOf items
  | .mapping es => nestingOf (es.map Prod.snd)
  | .ordered es => nestingOf (es.map fun e => .tuple [e.1, e.2])

/-- The layout of a datum, with room for all containers inside one another, each with as many tuples
inside one another as there are anywhere. -/
def Datum.layout (d : Datum) : String :=
  let nesting := d.store.containers.foldl (fun most c => max most c.nesting) d.value.nesting
  layoutFrom d.store (d.store.room * (nesting + 1)) true [] ⟨0, 0⟩ d.value

end YamlAudit
