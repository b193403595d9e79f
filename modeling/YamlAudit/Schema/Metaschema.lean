import YamlAudit.Schema.Metaschema.Draft3
import YamlAudit.Schema.Metaschema.Draft4
import YamlAudit.Schema.Metaschema.Draft6
import YamlAudit.Schema.Metaschema.Draft7
import YamlAudit.Schema.Metaschema.Draft201909
import YamlAudit.Schema.Metaschema.Draft202012
import YamlAudit.Schema.Registry
import YamlAudit.Value.OfPlain

/-!
# Schema — Metaschema

The schemas of schemas of all drafts, which every schema can refer to by their names.
-/

namespace YamlAudit.Metaschema

/-- The documents about schemas, and the drafts they are written in. -/
def documents : List (Draft × Plain) :=
  [(.draft3, draft3), (.draft4, draft4), (.draft6, draft6), (.draft7, draft7),
    (.draft201909, draft201909Schema), (.draft201909, draft201909Core),
    (.draft201909, draft201909Applicator), (.draft201909, draft201909Validation),
    (.draft201909, draft201909MetaData), (.draft201909, draft201909Format),
    (.draft201909, draft201909Content), (.draft202012, draft202012Schema),
    (.draft202012, draft202012Core), (.draft202012, draft202012Applicator),
    (.draft202012, draft202012Unevaluated), (.draft202012, draft202012Validation),
    (.draft202012, draft202012MetaData), (.draft202012, draft202012FormatAnnotation),
    (.draft202012, draft202012Content)]

/-- Adds a document to a registry and searches it. -/
def addDocument (r : Registry) (document : Draft × Plain) : Registry :=
  let (content, r) := r.absorb (.ofPlain document.2)
  match document.1.nameOf (r.datum content) with
  | .ok (some name) => (r.add name document.1 content).afterSearch
  | _ => r

/-- The registry of the documents about schemas. -/
def registry : Registry := documents.foldl addDocument .empty

end YamlAudit.Metaschema
