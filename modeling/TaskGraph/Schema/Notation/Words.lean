import TaskGraph.Json.Basic

/-!
# Words for schemas of schemas

The notation of schemas is described by schemas itself. These are the parts from which the descriptions
of all drafts are put together.
-/

set_option autoImplicit false

namespace TaskGraph.Notation

/-- Members of an object. -/
abbrev Entries := List (String × Json)

/-- Values of a type. -/
def typed (type : String) : Json := .object [("type", .str type)]

/-- Texts. -/
def text : Json := typed "string"

/-- Truth values. -/
def flag : Json := typed "boolean"

/-- Numbers. -/
def number : Json := typed "number"

/-- All values. -/
def anything : Json := .object []

/-- Texts of a format. -/
def textLike (format : String) : Json := .object [("type", .str "string"), ("format", .str format)]

/-- Texts in which a pattern is found. -/
def textWith (pattern : String) : Json :=
  .object [("type", .str "string"), ("pattern", .str pattern)]

/-- What a reference leads to. -/
def see (place : String) : Json := .object [("$ref", .str place)]

/-- What a definition of an earlier draft says. -/
def early (name : String) : Json := see ("#/definitions/" ++ name)

/-- What a definition of a later draft says. -/
def late (name : String) : Json := see ("#/$defs/" ++ name)

/-- Arrays of items of a kind. -/
def arrayOf (item : Json) (more : Entries) : Json :=
  .object ([("type", .str "array"), ("items", item)] ++ more)

/-- Arrays of at least one item of a kind. -/
def someOf (item : Json) : Json := arrayOf item [("minItems", .nat 1)]

/-- Objects of values of a kind. -/
def tableOf (value : Json) : Json :=
  .object [("type", .str "object"), ("additionalProperties", value)]

/-- Objects of values of a kind, by patterns. -/
def tableByPattern (value : Json) : Json :=
  .object [("type", .str "object"), ("additionalProperties", value),
    ("propertyNames", .object [("format", .str "regex")])]

/-- Values of one of some kinds. -/
def oneKind (kinds : List Json) : Json := .object [("anyOf", .arr kinds)]

/-- Each of some keys with one value. -/
def each (keys : List String) (value : Json) : Entries := keys.map fun k => (k, value)

/-- Whole numbers that are not negative. -/
def count : Json := .object [("type", .str "integer"), ("minimum", .nat 0)]

/-- The names of types. -/
def typeNames : Json := .object [("enum", .strings
  ["array", "boolean", "integer", "null", "number", "object", "string"])]

/-- Texts, each once. -/
def differentTexts (more : Entries) : Json := arrayOf text ([("uniqueItems", .bool true)] ++ more)

/-- A type, or several different ones. -/
def typeOrTypes (names : Json) : Json :=
  oneKind [names, arrayOf names [("minItems", .nat 1), ("uniqueItems", .bool true)]]

/-- Numbers above zero. -/
def positive : Json := .object [("type", .str "number"), ("exclusiveMinimum", .nat 0)]

/-- Objects and truth values. -/
def schemaTypes : Json := .strings ["object", "boolean"]

end TaskGraph.Notation
