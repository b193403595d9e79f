import YamlAudit.Schema.Metaschema.Terms

/-!
# Schema.Metaschema — Draft202012

What a schema of draft 2020-12 looks like, vocabulary by vocabulary.
-/

namespace YamlAudit.Metaschema

/-- The schema of schemas of draft 2020-12. -/
def draft202012Schema : Plain :=
  .object [
    ("$schema", .text "https://json-schema.org/draft/2020-12/schema"),
    ("$id", .text "https://json-schema.org/draft/2020-12/schema"),
    ("$vocabulary", .object [
      ("https://json-schema.org/draft/2020-12/vocab/core", .bool true),
      ("https://json-schema.org/draft/2020-12/vocab/applicator", .bool true),
      ("https://json-schema.org/draft/2020-12/vocab/unevaluated", .bool true),
      ("https://json-schema.org/draft/2020-12/vocab/validation", .bool true),
      ("https://json-schema.org/draft/2020-12/vocab/meta-data", .bool true),
      ("https://json-schema.org/draft/2020-12/vocab/format-annotation", .bool true),
      ("https://json-schema.org/draft/2020-12/vocab/content", .bool true)]),
    ("$dynamicAnchor", .text "meta"),
    ("title", .text "Core and Validation specifications meta-schema"),
    ("allOf", .list [
      reference "meta/core", reference "meta/applicator", reference "meta/unevaluated",
      reference "meta/validation", reference "meta/meta-data", reference "meta/format-annotation",
      reference "meta/content"]),
    ("type", .list [.text "object", .text "boolean"]),
    ("$comment",
      .text ("This meta-schema also defines keywords that have appeared in previous drafts in "
        ++ "order to prevent incompatible extensions as they remain in common use.")),
    ("properties", .object [
      ("definitions", .object [
        ("$comment", .text "\"definitions\" has been replaced by \"$defs\"."),
        ("type", .text "object"), ("additionalProperties", dynamic), ("deprecated", .bool true),
        ("default", .object [])]),
      ("dependencies", .object [
        ("$comment",
          .text ("\"dependencies\" has been split and replaced by \"dependentSchemas\" and "
            ++ "\"dependentRequired\" in order to serve their differing semantics.")),
        ("type", .text "object"),
        ("additionalProperties", .object [
          ("anyOf", .list [dynamic, reference "meta/validation#/$defs/stringArray"])]),
        ("deprecated", .bool true), ("default", .object [])]),
      ("$recursiveAnchor", .object [
        ("$comment", .text "\"$recursiveAnchor\" has been replaced by \"$dynamicAnchor\"."),
        ("$ref", .text "meta/core#/$defs/anchorString"), ("deprecated", .bool true)]),
      ("$recursiveRef", .object [
        ("$comment", .text "\"$recursiveRef\" has been replaced by \"$dynamicRef\"."),
        ("$ref", .text "meta/core#/$defs/uriReferenceString"), ("deprecated", .bool true)])])]

/-- The core vocabulary of draft 2020-12. -/
def draft202012Core : Plain :=
  .object [
    ("$schema", .text "https://json-schema.org/draft/2020-12/schema"),
    ("$id", .text "https://json-schema.org/draft/2020-12/meta/core"),
    ("$vocabulary", .object [("https://json-schema.org/draft/2020-12/vocab/core", .bool true)]),
    ("$dynamicAnchor", .text "meta"), ("title", .text "Core vocabulary meta-schema"),
    ("type", .list [.text "object", .text "boolean"]),
    ("properties", .object [
      ("$id", .object [
        ("$ref", .text "#/$defs/uriReferenceString"),
        ("$comment", .text "Non-empty fragments not allowed."), ("pattern", .text "^[^#]*#?$")]),
      ("$schema", reference "#/$defs/uriString"),
      ("$ref", reference "#/$defs/uriReferenceString"),
      ("$anchor", reference "#/$defs/anchorString"),
      ("$dynamicRef", reference "#/$defs/uriReferenceString"),
      ("$dynamicAnchor", reference "#/$defs/anchorString"),
      ("$vocabulary", .object [
        ("type", .text "object"), ("propertyNames", reference "#/$defs/uriString"),
        ("additionalProperties", typed "boolean")]),
      ("$comment", typed "string"),
      ("$defs", .object [("type", .text "object"), ("additionalProperties", dynamic)])]),
    ("$defs", .object [
      ("anchorString", .object [
        ("type", .text "string"), ("pattern", .text "^[A-Za-z_][-A-Za-z0-9._]*$")]),
      ("uriString", .object [("type", .text "string"), ("format", .text "uri")]),
      ("uriReferenceString", .object [
        ("type", .text "string"), ("format", .text "uri-reference")])])]

/-- The vocabulary of schemas within schemas of draft 2020-12. -/
def draft202012Applicator : Plain :=
  .object [
    ("$schema", .text "https://json-schema.org/draft/2020-12/schema"),
    ("$id", .text "https://json-schema.org/draft/2020-12/meta/applicator"),
    ("$vocabulary", .object [
      ("https://json-schema.org/draft/2020-12/vocab/applicator", .bool true)]),
    ("$dynamicAnchor", .text "meta"), ("title", .text "Applicator vocabulary meta-schema"),
    ("type", .list [.text "object", .text "boolean"]),
    ("properties", .object [
      ("prefixItems", reference "#/$defs/schemaArray"), ("items", dynamic), ("contains", dynamic),
      ("additionalProperties", dynamic),
      ("properties", .object [
        ("type", .text "object"), ("additionalProperties", dynamic), ("default", .object [])]),
      ("patternProperties", .object [
        ("type", .text "object"), ("additionalProperties", dynamic),
        ("propertyNames", .object [("format", .text "regex")]), ("default", .object [])]),
      ("dependentSchemas", .object [
        ("type", .text "object"), ("additionalProperties", dynamic), ("default", .object [])]),
      ("propertyNames", dynamic), ("if", dynamic), ("then", dynamic), ("else", dynamic),
      ("allOf", reference "#/$defs/schemaArray"), ("anyOf", reference "#/$defs/schemaArray"),
      ("oneOf", reference "#/$defs/schemaArray"), ("not", dynamic)]),
    ("$defs", .object [
      ("schemaArray", .object [
        ("type", .text "array"), ("minItems", .int 1), ("items", dynamic)])])]

/-- The vocabulary of what no other keyword has looked at of draft 2020-12. -/
def draft202012Unevaluated : Plain :=
  .object [
    ("$schema", .text "https://json-schema.org/draft/2020-12/schema"),
    ("$id", .text "https://json-schema.org/draft/2020-12/meta/unevaluated"),
    ("$vocabulary", .object [
      ("https://json-schema.org/draft/2020-12/vocab/unevaluated", .bool true)]),
    ("$dynamicAnchor", .text "meta"),
    ("title", .text "Unevaluated applicator vocabulary meta-schema"),
    ("type", .list [.text "object", .text "boolean"]),
    ("properties", .object [("unevaluatedItems", dynamic), ("unevaluatedProperties", dynamic)])]

/-- The vocabulary of conditions of draft 2020-12. -/
def draft202012Validation : Plain :=
  .object [
    ("$schema", .text "https://json-schema.org/draft/2020-12/schema"),
    ("$id", .text "https://json-schema.org/draft/2020-12/meta/validation"),
    ("$vocabulary", .object [
      ("https://json-schema.org/draft/2020-12/vocab/validation", .bool true)]),
    ("$dynamicAnchor", .text "meta"), ("title", .text "Validation vocabulary meta-schema"),
    ("type", .list [.text "object", .text "boolean"]),
    ("properties", .object [
      ("type", .object [
        ("anyOf", .list [
          reference "#/$defs/simpleTypes",
          .object [
            ("type", .text "array"), ("items", reference "#/$defs/simpleTypes"),
            ("minItems", .int 1), ("uniqueItems", .bool true)]])]),
      ("const", .bool true), ("enum", .object [("type", .text "array"), ("items", .bool true)]),
      ("multipleOf", .object [("type", .text "number"), ("exclusiveMinimum", .int 0)]),
      ("maximum", typed "number"), ("exclusiveMaximum", typed "number"),
      ("minimum", typed "number"), ("exclusiveMinimum", typed "number"),
      ("maxLength", reference "#/$defs/nonNegativeInteger"),
      ("minLength", reference "#/$defs/nonNegativeIntegerDefault0"),
      ("pattern", .object [("type", .text "string"), ("format", .text "regex")]),
      ("maxItems", reference "#/$defs/nonNegativeInteger"),
      ("minItems", reference "#/$defs/nonNegativeIntegerDefault0"),
      ("uniqueItems", .object [("type", .text "boolean"), ("default", .bool false)]),
      ("maxContains", reference "#/$defs/nonNegativeInteger"),
      ("minContains", .object [
        ("$ref", .text "#/$defs/nonNegativeInteger"), ("default", .int 1)]),
      ("maxProperties", reference "#/$defs/nonNegativeInteger"),
      ("minProperties", reference "#/$defs/nonNegativeIntegerDefault0"),
      ("required", reference "#/$defs/stringArray"),
      ("dependentRequired", .object [
        ("type", .text "object"), ("additionalProperties", reference "#/$defs/stringArray")])]),
    ("$defs", .object [
      ("nonNegativeInteger", .object [("type", .text "integer"), ("minimum", .int 0)]),
      ("nonNegativeIntegerDefault0", .object [
        ("$ref", .text "#/$defs/nonNegativeInteger"), ("default", .int 0)]),
      ("simpleTypes", .object [
        ("enum", .list [
          .text "array", .text "boolean", .text "integer", .text "null", .text "number",
          .text "object", .text "string"])]),
      ("stringArray", .object [
        ("type", .text "array"), ("items", typed "string"), ("uniqueItems", .bool true),
        ("default", .list [])])])]

/-- The vocabulary of descriptions of draft 2020-12. -/
def draft202012MetaData : Plain :=
  .object [
    ("$schema", .text "https://json-schema.org/draft/2020-12/schema"),
    ("$id", .text "https://json-schema.org/draft/2020-12/meta/meta-data"),
    ("$vocabulary", .object [
      ("https://json-schema.org/draft/2020-12/vocab/meta-data", .bool true)]),
    ("$dynamicAnchor", .text "meta"), ("title", .text "Meta-data vocabulary meta-schema"),
    ("type", .list [.text "object", .text "boolean"]),
    ("properties", .object [
      ("title", typed "string"), ("description", typed "string"), ("default", .bool true),
      ("deprecated", .object [("type", .text "boolean"), ("default", .bool false)]),
      ("readOnly", .object [("type", .text "boolean"), ("default", .bool false)]),
      ("writeOnly", .object [("type", .text "boolean"), ("default", .bool false)]),
      ("examples", .object [("type", .text "array"), ("items", .bool true)])])]

/-- The vocabulary of formats of draft 2020-12. -/
def draft202012FormatAnnotation : Plain :=
  .object [
    ("$schema", .text "https://json-schema.org/draft/2020-12/schema"),
    ("$id", .text "https://json-schema.org/draft/2020-12/meta/format-annotation"),
    ("$vocabulary", .object [
      ("https://json-schema.org/draft/2020-12/vocab/format-annotation", .bool true)]),
    ("$dynamicAnchor", .text "meta"),
    ("title", .text "Format vocabulary meta-schema for annotation results"),
    ("type", .list [.text "object", .text "boolean"]),
    ("properties", .object [("format", typed "string")])]

/-- The vocabulary of embedded content of draft 2020-12. -/
def draft202012Content : Plain :=
  .object [
    ("$schema", .text "https://json-schema.org/draft/2020-12/schema"),
    ("$id", .text "https://json-schema.org/draft/2020-12/meta/content"),
    ("$vocabulary", .object [
      ("https://json-schema.org/draft/2020-12/vocab/content", .bool true)]),
    ("$dynamicAnchor", .text "meta"), ("title", .text "Content vocabulary meta-schema"),
    ("type", .list [.text "object", .text "boolean"]),
    ("properties", .object [
      ("contentEncoding", typed "string"), ("contentMediaType", typed "string"),
      ("contentSchema", dynamic)])]

end YamlAudit.Metaschema
