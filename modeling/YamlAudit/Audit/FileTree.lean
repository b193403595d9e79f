import YamlAudit.Text.Utf8

/-!
# Audit — FileTree

Files and directories below a working directory, and what a path leads to among them.  A path is kept
as its root and its parts: empty parts and parts that stand for where one is have no meaning and are
dropped, steps upwards are kept and taken only when the path is followed.
-/

namespace YamlAudit

/-- A path: where it starts, and the names on the way. -/
structure PathName where
  root : String
  parts : List String
  deriving DecidableEq, Repr, Inhabited

namespace PathName

/-- The root of a path; two slashes are a root of their own, more are the same as one. -/
def rootOf : List Char → String
  | '/' :: '/' :: '/' :: _ => "/"
  | '/' :: '/' :: _ => "//"
  | '/' :: _ => "/"
  | _ => ""

/-- The path that a text stands for. -/
def ofText (text : String) : PathName :=
  ⟨rootOf text.toList, (text.splitOn "/").filter fun part => part ≠ "" && part ≠ "."⟩

/-- A path as text; the path to where one is reads as a point. -/
def text (p : PathName) : String :=
  match p.root ++ "/".intercalate p.parts with
  | "" => "."
  | text => text

end PathName

/-- What a path can lead to. -/
inductive FileEntry where
  | directory
  | file (bytes : List UInt8)
  deriving DecidableEq, Repr, Inhabited

/-- The entries below a working directory by the names on the way to them, later ones first. -/
structure FileTree where
  entries : List (List String × FileEntry)
  deriving DecidableEq, Repr, Inhabited

namespace FileTree

/-- An empty working directory. -/
def empty : FileTree := ⟨[]⟩

/-- Puts an entry under a path, and directories on the way to it. -/
def put (t : FileTree) (path : String) (entry : FileEntry) : FileTree :=
  ⟨((PathName.ofText path).parts, entry) :: t.entries⟩

/-- The entry that some names lead to; what lies above another entry is a directory. -/
def entry? (t : FileTree) (names : List String) : Option FileEntry :=
  match t.entries.lookup names with
  | some entry => some entry
  | none =>
    if names.isEmpty || t.entries.any fun e => names.isPrefixOf e.1 then some .directory else none

/-- Follows names from a place in the tree.  Above the working directory there are directories, but
nothing is known to be in them. -/
def follow (t : FileTree) : List String → List String → Option FileEntry
  | here, [] => t.entry? here
  | here, name :: rest =>
    match t.entry? here with
    | some .directory =>
      if name ≠ ".." then t.follow (here ++ [name]) rest
      else if here.isEmpty then
        if rest.all (· == "..") then some .directory else none
      else t.follow here.dropLast rest
    | _ => none

/-- What a path leads to. -/
def find? (t : FileTree) (p : PathName) : Option FileEntry :=
  if p.root = "" then t.follow [] p.parts
  else if p.parts.isEmpty then some .directory
  else none

/-- The bytes of a file. -/
def bytes? (t : FileTree) (path : String) : Option (List UInt8) :=
  match t.find? (.ofText path) with
  | some (.file bytes) => some bytes
  | _ => none

end FileTree

/-- The text of a file: line breaks of all kinds become line feeds. -/
def fileText (bytes : List UInt8) : Except Utf8Fault String :=
  (decodeUtf8 bytes).map fun cs => String.ofList (withLineFeeds cs)

end YamlAudit
