import YamlAudit.Text.Blank
import YamlAudit.Text.Utf8

/-!
# Settings — EnvFile

Environment files: lines `NAME=value`.  A line may begin with `export`, a name may stand in single
quotes, and blanks around the equals sign do not count.  A value in single or double quotes may run
over several lines and has escapes; any other value ends at the end of its line or at a blank before
a `#`.  A line that does not fit is skipped (`bindings`).  In the values `${NAME}` stands for the
value bound to a name by then, in the file or else in the environment, and `${NAME:-text}` falls back
to a text (`resolve`).
-/

namespace YamlAudit.EnvFile

/-- Blanks within a line. -/
def isLineSpace (c : Char) : Bool := isSpace c && c != '\r' && c != '\n'

/-- Not the end of a line. -/
def inLine (c : Char) : Bool := c != '\r' && c != '\n'

/-- What remains after the rest of a line and its end. -/
def skipLine (cs : List Char) : List Char :=
  match cs.dropWhile inLine with
  | _ :: rest => rest
  | [] => []

/-- The word `export` and the blanks after it are dropped. -/
def dropExport (cs : List Char) : List Char :=
  if "export".toList.isPrefixOf cs then
    let rest := cs.drop 6
    match rest with
    | c :: _ => if isLineSpace c then rest.dropWhile isLineSpace else cs
    | [] => cs
  else cs

/-- A text up to its closing quote, and what follows the quote.  A quote after a backslash closes
the text only when no later one does. -/
def quotedPart (quote : Char) : List Char → Option (List Char × List Char)
  | [] => none
  | c :: rest =>
    if c = quote then some ([], rest)
    else if c = '\\' then
      match rest with
      | [] => none
      | d :: more =>
        if d = quote then
          match quotedPart quote more with
          | some (value, after) => some ('\\' :: quote :: value, after)
          | none => some (['\\'], more)
        else (quotedPart quote (d :: more)).map fun (value, after) => (c :: value, after)
    else (quotedPart quote rest).map fun (value, after) => (c :: value, after)

/-- Replaces a backslash and a character by what `escape` gives for the character. -/
def unescape (escape : Char → Option Char) : List Char → List Char
  | '\\' :: c :: rest =>
    match escape c with
    | some d => d :: unescape escape rest
    | none => '\\' :: unescape escape (c :: rest)
  | c :: rest => c :: unescape escape rest
  | [] => []

/-- The escapes between single quotes. -/
def singleEscape (c : Char) : Option Char :=
  if c = '\\' ∨ c = '\'' then some c else none

/-- The escapes between double quotes. -/
def doubleEscape (c : Char) : Option Char :=
  match c with
  | '\\' | '\'' | '"' => some c
  | 'a' => some '\x07'
  | 'b' => some '\x08'
  | 'f' => some '\x0c'
  | 'n' => some '\n'
  | 'r' => some '\r'
  | 't' => some '\t'
  | 'v' => some '\x0b'
  | _ => none

/-- A text up to the blanks before its first `#` that has any. -/
def dropComment : List Char → List Char
  | [] => []
  | c :: rest =>
    if isSpace c && (match rest.dropWhile isSpace with
      | '#' :: _ => true
      | _ => false) then []
    else c :: dropComment rest

/-- A text without blanks at its end. -/
def trimEnd (cs : List Char) : List Char := (cs.reverse.dropWhile isSpace).reverse

/-- The value at the start of a text, and what follows it. -/
def valuePart (cs : List Char) : Option (List Char × List Char) :=
  match cs with
  | '\'' :: rest => (quotedPart '\'' rest).map fun (v, after) => (unescape singleEscape v, after)
  | '"' :: rest => (quotedPart '"' rest).map fun (v, after) => (unescape doubleEscape v, after)
  | _ => some (trimEnd (dropComment (cs.takeWhile inLine)), cs.dropWhile inLine)

/-- The name at the start of a text, and what follows it; a comment has none. -/
def namePart (cs : List Char) : Option (Option (List Char) × List Char) :=
  match cs with
  | '#' :: _ => some (none, cs)
  | '\'' :: rest =>
    let name := rest.takeWhile (· ≠ '\'')
    match rest.dropWhile (· ≠ '\'') with
    | _ :: after => if name.isEmpty then none else some (some name, after)
    | [] => none
  | _ =>
    let inName (c : Char) : Bool := c != '=' && c != '#' && !isSpace c
    let name := cs.takeWhile inName
    if name.isEmpty then none else some (some name, cs.dropWhile inName)

/-- What follows a comment, if there is one, and the end of the line; none if more follows. -/
def lineEnd (cs : List Char) : Option (List Char) :=
  let rest := match cs.dropWhile isLineSpace with
    | '#' :: more => more.dropWhile inLine
    | other => other
  match rest with
  | [] => some []
  | '\r' :: '\n' :: after => some after
  | '\r' :: after => some after
  | '\n' :: after => some after
  | _ => none

/-- One binding: a name, if the line has one, and its value, if it has one; then what follows.  When
the line does not fit, the place where it went wrong. -/
def bindingPart (cs : List Char) :
    Except (List Char) (Option (String × Option String) × List Char) :=
  let cs := dropExport cs
  match namePart cs with
  | none => .error cs
  | some (name, after) =>
    let after := after.dropWhile isLineSpace
    let binding (value : Option (List Char)) : Option (String × Option String) :=
      name.map fun n => (String.ofList n, value.map String.ofList)
    match after with
    | '=' :: rest =>
      let rest := rest.dropWhile isLineSpace
      match valuePart rest with
      | none => .error rest
      | some (value, after) =>
        match lineEnd after with
        | some next => .ok (binding (some value), next)
        | none => .error after
    | _ =>
      match lineEnd after with
      | some next => .ok (binding none, next)
      | none => .error after

/-- The bindings of a text in order, at most `fuel` of them. -/
def bindingsFrom : Nat → List Char → List (String × Option String)
  | 0, _ => []
  | fuel + 1, cs =>
    match cs.dropWhile isSpace with
    | [] => []
    | start =>
      match bindingPart start with
      | .ok (some b, next) => b :: bindingsFrom fuel next
      | .ok (none, next) => bindingsFrom fuel next
      | .error at_ => bindingsFrom fuel (skipLine at_)

/-- The bindings of an environment file as they are written. -/
def bindings (text : String) : List (String × Option String) :=
  let cs := text.toList
  bindingsFrom (cs.length + 1) cs

/-- A reference `${NAME}` or `${NAME:-text}` after its opening brace, and what follows it. -/
def referencePart (cs : List Char) : Option (String × String × List Char) :=
  let inName (c : Char) : Bool := c != '}' && c != ':'
  let name := String.ofList (cs.takeWhile inName)
  match cs.dropWhile inName with
  | '}' :: after => some (name, "", after)
  | ':' :: '-' :: rest =>
    match rest.dropWhile (· ≠ '}') with
    | _ :: after => some (name, String.ofList (rest.takeWhile (· ≠ '}')), after)
    | [] => none
  | _ => none

/-- Replaces the references in a value, at most `fuel` characters of it. -/
def expand (lookup : String → Option (Option String)) : Nat → List Char → List Char
  | 0, cs => cs
  | _, [] => []
  | fuel + 1, c :: rest =>
    match c, rest with
    | '$', '{' :: inner =>
      match referencePart inner with
      | some (name, fallback, after) =>
        let value := match lookup name with
          | some bound => bound.getD ""
          | none => fallback
        value.toList ++ expand lookup fuel after
      | none => c :: expand lookup fuel rest
    | _, _ => c :: expand lookup fuel rest

/-- Binds a name, in the place of an earlier binding or at the end. -/
def bind (name : String) (value : Option String) :
    List (String × Option String) → List (String × Option String)
  | [] => [(name, value)]
  | (n, old) :: rest => if n = name then (n, value) :: rest else (n, old) :: bind name value rest

/-- Resolves the references of the bindings in order, onto what is bound already. -/
def resolve (environment : List (String × String)) :
    List (String × Option String) → List (String × Option String) → List (String × Option String)
  | bound, [] => bound
  | bound, (name, value) :: rest =>
    let lookup (n : String) : Option (Option String) :=
      match bound.lookup n with
      | some v => some v
      | none => (environment.lookup n).map some
    let value := value.map fun v =>
      let cs := v.toList
      String.ofList (expand lookup cs.length cs)
    resolve environment (bind name value bound) rest

/-- The names an environment file binds and their values. -/
def read (environment : List (String × String)) (text : String) : List (String × Option String) :=
  resolve environment [] (bindings (String.ofList (withLineFeeds text.toList)))

end YamlAudit.EnvFile
