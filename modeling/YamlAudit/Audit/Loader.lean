import YamlAudit.Yaml.Tree
import YamlAudit.Yaml.Build
import YamlAudit.Value.Copy
import YamlAudit.RangeMap.Index
import YamlAudit.RangeMap.Calls
import YamlAudit.Settings.Basic

/-!
# Audit — Loader

From the text of a document to its value and its range map.  The text is read twice, once for the
tree of what is written where and once for the value, and three limits are kept: the size of the text
is looked at before anything else, the depth while the tree is read, the number of values when the
value is complete.  The first check that fails is the answer.

Every stage takes calls inside one another, and the interpreter lets them to some depth only
(`Loader.calls`).  Where the tree or the value of a text would need more, the text is refused for its
nesting.  Where the copy of the value or the range map would, the failure is of another kind
(`LoadError.exhausted`), since nothing looks after it there.

A loader reads one document after another; a version directive holds on until the next.
-/

namespace YamlAudit

/-- Why a document cannot be loaded. -/
inductive LoadError where
  | tooLarge (size : Nat) (limit : Int)
  | tooManyNodes (limit : Int)
  /-- Nested more deeply than the interpreter lets calls be. -/
  | tooNested
  | tree (e : Yaml.TreeError)
  | value (e : Yaml.BuildError)
  /-- A key that cannot become a text. -/
  | key (e : TooManyDigits)
  /-- Calls deeper inside one another than they may be, after the value has been read. -/
  | exhausted
  | range (r : Reversed)

/-- A document that was loaded. -/
structure LoadedDocument where
  data : Datum
  rangeMap : Option RangeMap

/-- Digits with commas between groups of three, counted from the end. -/
def groupDigits (ds : List Char) : List Char :=
  go ds.reverse []
where
  /-- Groups the digits that are left, the last of them first. -/
  go : List Char → List Char → List Char
    | a :: b :: c :: d :: rest, acc => go (d :: rest) (',' :: c :: b :: a :: acc)
    | few, acc => few.reverse ++ acc

/-- An integer with commas between the thousands. -/
def groupedText (n : Int) : String :=
  (if n < 0 then "-" else "") ++ String.ofList (groupDigits (Nat.repr n.natAbs).toList)

/-- The wording of what keeps events from composing. -/
def CompositionError.message : CompositionError → String
  | .tooDeep limit => "YAML nesting exceeds maximum depth (" ++ toString limit ++ ")"
  | .unexpected event => "unexpected parser event " ++ event.name
  | .secondDocument => "expected a single document in the stream"
  | .missingRoot => ""

/-- The wording of what keeps a text from having a tree. -/
def Yaml.TreeError.message : Yaml.TreeError → String
  | .text fault => fault.message
  | .composition e => e.message

/-- The wording of what keeps a value from being built. -/
def Yaml.BuildError.message : Yaml.BuildError → String
  | .fault f => f.message
  | .refusal r => r.message

/-- What keeps a document from being loaded when its value cannot be read. -/
def LoadError.ofRead : Yaml.ReadError → LoadError
  | .tooNested => .tooNested
  | .value e => .value e

/-- The wording of what keeps a document from being loaded. -/
def LoadError.message : LoadError → String
  | tooLarge size limit =>
    "YAML document exceeds maximum size (" ++ groupedText size ++ " chars > " ++ groupedText limit
      ++ " limit)"
  | tooManyNodes limit =>
    "YAML document exceeds maximum node count (" ++ groupedText limit ++ ")"
  | tooNested | value (.refusal .exhausted) => "YAML nesting exceeds the interpreter recursion limit"
  | tree e => e.message
  | value e => e.message
  | key e => e.message
  | exhausted => Yaml.Refusal.exhausted.message
  | range r => r.message

/-- A loader between two documents. -/
structure Loader where
  settings : Settings
  /-- The version in force for trees. -/
  treeVersion : Yaml.Version
  reader : Yaml.ValueReader

namespace Loader

/-- A loader that has read nothing. -/
def start (settings : Settings) : Loader := ⟨settings, .default, .start⟩

/-- How many calls may be inside one another. -/
def calls (l : Loader) : Nat := l.reader.calls

/-- The tree of a text.  It takes one call for each level, so it is built with the smaller of two bounds
on its depth, and the one that was asked for decides which error it is to go beyond. -/
def readTree (l : Loader) (source : List Char) : Except LoadError (Option Node) × Loader :=
  let run := Yaml.Tree.read (min l.settings.maxDepth l.calls) l.treeVersion source
  let next := { l with treeVersion := run.version }
  match run.tree with
  | .ok root => (.ok root, next)
  | .error (.composition (.tooDeep _)) =>
    if (l.calls : Int) < l.settings.maxDepth then (.error .tooNested, next)
    else (.error (.tree (.composition (.tooDeep l.settings.maxDepth))), next)
  | .error e => (.error (.tree e), next)

/-- The copy of a value, with all copies behind the originals. -/
def copyOf (l : Loader) (data : Datum) : Except LoadError Datum :=
  match data.copiedWithin l.calls with
  | .ok _ => .ok data.plain
  | .error (.key e) => .error (.key e)
  | .error .tooNested => .error .exhausted

/-- The range map of a tree. -/
def mapOf (l : Loader) (text : String) : Option Node → Except LoadError (Option RangeMap)
  | none => .ok none
  | some root =>
    if l.calls < RangeMap.calls root then .error .exhausted
    else (RangeMap.index (LineTable.ofText text) root).mapError .range

/-- What is done with the value and the tree of a text. -/
def finish (l : Loader) (text : String) (root : Option Node) (data : Datum) :
    Except LoadError LoadedDocument :=
  if !data.fits l.settings.maxNodeCount then .error (.tooManyNodes l.settings.maxNodeCount)
  else do
    let copy ← l.copyOf data
    let map ← l.mapOf text root
    return ⟨copy, map⟩

/-- Loads a document; the loader is ready for the next one whatever comes of it. -/
def load (l : Loader) (text : String) : Except LoadError LoadedDocument × Loader :=
  let source := text.toList
  if l.settings.maxDocumentSize < (source.length : Int) then
    (.error (.tooLarge source.length l.settings.maxDocumentSize), l)
  else match l.readTree source with
    | (.error e, l) => (.error e, l)
    | (.ok root, l) =>
      match l.reader.read true source with
      | (.error e, reader) => (.error (.ofRead e), { l with reader })
      | (.ok data, reader) => (l.finish text root data, { l with reader })

/-- Loads documents in turn. -/
def loadAll : Loader → List String → List (Except LoadError LoadedDocument)
  | _, [] => []
  | l, text :: rest =>
    let (result, l) := l.load text
    result :: loadAll l rest

end Loader

end YamlAudit
