import ManifestPolicy.Schema.Published
import ManifestPolicy.Schema.Validity

/-!
# The schema of schemas

What a JSON schema may hold is said by a schema, in one part for each group of keywords. A schema
that it objects to is reported by the first objection.
-/

namespace ManifestPolicy.Schema

/-- A schema in its turn. -/
def anySchema : Json := .obj [("$ref", .str "#")]

/-- An object whose members are schemas. -/
def schemaTable (more : List (String × Json)) : Json :=
  .obj ([("type", .str "object"), ("additionalProperties", anySchema)] ++ more)

/-- A value of a type. -/
def ofType (type : String) : Json := .obj [("type", .str type)]

/-- A group of keywords. -/
def vocabulary (properties : List (String × Json)) : Json :=
  .obj [("type", .arr [.str "object", .str "boolean"]), ("properties", .obj properties)]

/-- Names and references. -/
def coreKeywords : Json :=
  vocabulary [
    ("$id", .obj [
      ("$ref", .str "#/$defs/uriReferenceString"), ("pattern", .str "^[^#]*#?$")]),
    ("$schema", reference "uriString"),
    ("$ref", reference "uriReferenceString"),
    ("$anchor", reference "anchorString"),
    ("$dynamicRef", reference "uriReferenceString"),
    ("$dynamicAnchor", reference "anchorString"),
    ("$vocabulary", .obj [
      ("type", .str "object"),
      ("propertyNames", reference "uriString"),
      ("additionalProperties", ofType "boolean")]),
    ("$comment", ofType "string"),
    ("$defs", schemaTable [])]

/-- Keywords that apply schemas to parts of a value. -/
def applicatorKeywords : Json :=
  vocabulary [
    ("prefixItems", reference "schemaArray"),
    ("items", anySchema),
    ("contains", anySchema),
    ("additionalProperties", anySchema),
    ("properties", schemaTable []),
    ("patternProperties", schemaTable [("propertyNames", .obj [("format", .str "regex")])]),
    ("dependentSchemas", schemaTable []),
    ("propertyNames", anySchema),
    ("if", anySchema),
    ("then", anySchema),
    ("else", anySchema),
    ("allOf", reference "schemaArray"),
    ("anyOf", reference "schemaArray"),
    ("oneOf", reference "schemaArray"),
    ("not", anySchema)]

/-- Keywords for parts that nothing else looked at. -/
def unevaluatedKeywords : Json :=
  vocabulary [("unevaluatedItems", anySchema), ("unevaluatedProperties", anySchema)]

/-- Keywords that ask something of a value itself. -/
def validationKeywords : Json :=
  vocabulary [
    ("type", .obj [("anyOf", .arr [
      reference "simpleTypes",
      .obj [
        ("type", .str "array"),
        ("items", reference "simpleTypes"),
        ("minItems", .int 1),
        ("uniqueItems", .bool true)]])]),
    ("const", .bool true),
    ("enum", ofType "array"),
    ("multipleOf", .obj [("type", .str "number"), ("exclusiveMinimum", .int 0)]),
    ("maximum", ofType "number"),
    ("exclusiveMaximum", ofType "number"),
    ("minimum", ofType "number"),
    ("exclusiveMinimum", ofType "number"),
    ("maxLength", reference "nonNegativeInteger"),
    ("minLength", reference "nonNegativeInteger"),
    ("pattern", .obj [("type", .str "string"), ("format", .str "regex")]),
    ("maxItems", reference "nonNegativeInteger"),
    ("minItems", reference "nonNegativeInteger"),
    ("uniqueItems", ofType "boolean"),
    ("maxContains", reference "nonNegativeInteger"),
    ("minContains", reference "nonNegativeInteger"),
    ("maxProperties", reference "nonNegativeInteger"),
    ("minProperties", reference "nonNegativeInteger"),
    ("required", reference "stringArray"),
    ("dependentRequired", .obj [
      ("type", .str "object"), ("additionalProperties", reference "stringArray")])]

/-- Keywords that describe. -/
def descriptionKeywords : Json :=
  vocabulary [
    ("title", ofType "string"),
    ("description", ofType "string"),
    ("default", .bool true),
    ("deprecated", ofType "boolean"),
    ("readOnly", ofType "boolean"),
    ("writeOnly", ofType "boolean"),
    ("examples", ofType "array")]

/-- Keywords for the format of texts. -/
def formatKeywords : Json := vocabulary [("format", ofType "string")]

/-- Keywords for what texts hold. -/
def contentKeywords : Json :=
  vocabulary [
    ("contentEncoding", ofType "string"),
    ("contentMediaType", ofType "string"),
    ("contentSchema", anySchema)]

/-- The forms that the groups share. -/
def sharedForms : List (String × Json) :=
  [("anchorString", .obj [
      ("type", .str "string"), ("pattern", .str "^[A-Za-z_][-A-Za-z0-9._]*$")]),
    ("uriString", .obj [("type", .str "string"), ("format", .str "uri")]),
    ("uriReferenceString", .obj [("type", .str "string"), ("format", .str "uri-reference")]),
    ("schemaArray", .obj [
      ("type", .str "array"), ("minItems", .int 1), ("items", anySchema)]),
    ("nonNegativeInteger", .obj [("type", .str "integer"), ("minimum", .int 0)]),
    ("simpleTypes", .obj [("enum", .arr ([
      "array", "boolean", "integer", "null", "number", "object", "string"].map .str))]),
    ("stringArray", .obj [
      ("type", .str "array"), ("items", ofType "string"), ("uniqueItems", .bool true)])]

/-- The groups in order. -/
def vocabularies : List (String × Json) :=
  [("core", coreKeywords), ("applicator", applicatorKeywords),
    ("unevaluated", unevaluatedKeywords), ("validation", validationKeywords),
    ("meta-data", descriptionKeywords), ("format-annotation", formatKeywords),
    ("content", contentKeywords)]

/-- The schema of schemas. -/
def metaSchema : Json :=
  .obj [
    ("$defs", .obj (vocabularies ++ sharedForms)),
    ("allOf", .arr (vocabularies.map fun v => reference v.1)),
    ("type", .arr [.str "object", .str "boolean"]),
    ("properties", .obj [
      ("definitions", schemaTable []),
      ("dependencies", .obj [
        ("type", .str "object"),
        ("additionalProperties", .obj [
          ("anyOf", .arr [anySchema, reference "stringArray"])])]),
      ("$recursiveAnchor", reference "anchorString"),
      ("$recursiveRef", reference "uriReferenceString")])]

/-- What to say of schemas that are no schemas. -/
def complaints (schemas : List (String × Json)) : List String :=
  schemas.filterMap fun s =>
    (faults metaSchema s.2).head?.map fun f => s!"Schema {s.1} is invalid: {f.message}"

end ManifestPolicy.Schema
