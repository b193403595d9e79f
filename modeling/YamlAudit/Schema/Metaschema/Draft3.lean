import YamlAudit.Schema.Metaschema.Terms

/-!
# Schema.Metaschema — Draft3

What a schema of draft 3 looks like.
-/

namespace YamlAudit.Metaschema

/-- The schema of schemas of draft 3. -/
def draft3 : Plain :=
  .object [
    ("$schema", .text "http://json-schema.org/draft-03/schema#"),
    ("id", .text "http://json-schema.org/draft-03/schema#"), ("type", .text "object"),
    ("properties", .object [
      ("type", .object [
        ("type", .list [.text "string", .text "array"]),
        ("items", .object [("type", .list [.text "string", reference "#"])]),
        ("uniqueItems", .bool true), ("default", .text "any")]),
      ("properties", .object [
        ("type", .text "object"),
        ("additionalProperties", .object [("$ref", .text "#"), ("type", .text "object")]),
        ("default", .object [])]),
      ("patternProperties", .object [
        ("type", .text "object"), ("additionalProperties", reference "#"),
        ("default", .object [])]),
      ("additionalProperties", .object [
        ("type", .list [reference "#", .text "boolean"]), ("default", .object [])]),
      ("items", .object [
        ("type", .list [reference "#", .text "array"]), ("items", reference "#"),
        ("default", .object [])]),
      ("additionalItems", .object [
        ("type", .list [reference "#", .text "boolean"]), ("default", .object [])]),
      ("required", .object [("type", .text "boolean"), ("default", .bool false)]),
      ("dependencies", .object [
        ("type", .text "object"),
        ("additionalProperties", .object [
          ("type", .list [.text "string", .text "array", reference "#"]),
          ("items", typed "string")]),
        ("default", .object [])]),
      ("minimum", typed "number"), ("maximum", typed "number"),
      ("exclusiveMinimum", .object [("type", .text "boolean"), ("default", .bool false)]),
      ("exclusiveMaximum", .object [("type", .text "boolean"), ("default", .bool false)]),
      ("minItems", .object [
        ("type", .text "integer"), ("minimum", .int 0), ("default", .int 0)]),
      ("maxItems", .object [("type", .text "integer"), ("minimum", .int 0)]),
      ("uniqueItems", .object [("type", .text "boolean"), ("default", .bool false)]),
      ("pattern", .object [("type", .text "string"), ("format", .text "regex")]),
      ("minLength", .object [
        ("type", .text "integer"), ("minimum", .int 0), ("default", .int 0)]),
      ("maxLength", typed "integer"),
      ("enum", .object [
        ("type", .text "array"), ("minItems", .int 1), ("uniqueItems", .bool true)]),
      ("default", typed "any"), ("title", typed "string"), ("description", typed "string"),
      ("format", typed "string"),
      ("divisibleBy", .object [
        ("type", .text "number"), ("minimum", .int 0), ("exclusiveMinimum", .bool true),
        ("default", .int 1)]),
      ("disallow", .object [
        ("type", .list [.text "string", .text "array"]),
        ("items", .object [("type", .list [.text "string", reference "#"])]),
        ("uniqueItems", .bool true)]),
      ("extends", .object [
        ("type", .list [reference "#", .text "array"]), ("items", reference "#"),
        ("default", .object [])]),
      ("id", typed "string"), ("$ref", typed "string"),
      ("$schema", .object [("type", .text "string"), ("format", .text "uri")])]),
    ("dependencies", .object [
      ("exclusiveMinimum", .text "minimum"), ("exclusiveMaximum", .text "maximum")]),
    ("default", .object [])]

end YamlAudit.Metaschema
