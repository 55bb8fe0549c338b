import TaskGraph.Json.Order
import TaskGraph.Schema.Format
import TaskGraph.Text.Pattern.Reader

/-!
# Schemas

A schema describes values. It allows everything, nothing, or what all of its keywords allow; a keyword
says nothing about values of a kind that it is not meant for.
-/

set_option autoImplicit false

namespace TaskGraph

/-- The types that a schema can name. -/
inductive SchemaType where
  | array
  | boolean
  /-- A whole number, however it is written. -/
  | integer
  /-- A number written without a point. -/
  | writtenInteger
  | null
  | number
  | object
  | string
  deriving Repr, DecidableEq

namespace SchemaType

/-- The types in the order of their names. -/
def all : List SchemaType :=
  [array, boolean, integer, writtenInteger, null, number, object, string]

/-- The name of a type. -/
def name : SchemaType → String
  | array => "array"
  | boolean => "boolean"
  | integer | writtenInteger => "integer"
  | null => "null"
  | number => "number"
  | object => "object"
  | string => "string"

/-- The type of a name. -/
def ofName? (s : String) : Option SchemaType := all.find? (·.name == s)

/-- Whether a value is of a type. -/
def admits : SchemaType → Json → Bool
  | array, .arr _ => true
  | boolean, .bool _ => true
  | integer, .num n => n.isWhole
  | writtenInteger, .num (.int _) => true
  | null, .null => true
  | number, .num _ => true
  | object, .obj _ => true
  | string, .str _ => true
  | _, _ => false

end SchemaType

/-- A bound on a number. -/
inductive Bound where
  | minimum
  | maximum
  | exclusiveMinimum
  | exclusiveMaximum
  deriving Repr, DecidableEq

/-- What is counted about a value. -/
inductive Counted where
  | characters
  | items
  | properties
  deriving Repr, DecidableEq

/-- What a text holds. -/
inductive Content where
  /-- Bytes in base 64. -/
  | bytes
  /-- A value. -/
  | value
  /-- A value whose bytes are in base 64. -/
  | valueInBytes
  deriving Repr, DecidableEq

/-- A reference from a schema to another one. -/
inductive Reference where
  /-- To the schema with an address, at a place or with a name. -/
  | at (text : String)
  /-- To the whole, or to the whole that it was reached from. -/
  | whole
  deriving Repr, DecidableEq

mutual

/-- A description of values. -/
inductive Schema where
  | always
  | never
  /-- All of some keywords; references in them are read from the address if there is one. -/
  | object (address : Option String) (keywords : List Keyword)

/-- A condition on values. -/
inductive Keyword where
  | oneType (type : SchemaType)
  | types (types : List SchemaType)
  | const (value : Json)
  | enum (options : List Json)
  | bound (bound : Bound) (limit : Number)
  | multipleOf (divisor : Float)
  /-- At least, or at most, so many. -/
  | count (counted : Counted) (atLeast : Bool) (limit : Nat)
  | pattern (source : String) (pattern : Pattern)
  | format (format : TextFormat)
  | content (content : Content)
  | unique
  /-- The items behind a number of them. -/
  | items (skipped : Nat) (schema : Schema)
  | leadingItems (schemas : List Schema)
  | noItems
  /-- No items behind a number of them. -/
  | noMoreItems (allowed : Nat)
  /-- How many items there are of a kind, and whether those are taken for described. -/
  | contains (schema : Schema) (least most : Option Nat) (describes : Bool)
  | unevaluatedItems (schema : Schema)
  | properties (schemas : List (String × Schema))
  | matching (schemas : List (Pattern × Schema))
  /-- Properties by name and by pattern, and what holds of all others. -/
  | closed (named : List (String × Schema)) (matching : List (Pattern × Schema)) (others : Schema)
  /-- Properties by name and by pattern, and no others. -/
  | onlyProperties (named : List (String × Schema)) (matching : List (Pattern × Schema))
  | noProperties
  | unevaluatedProperties (schema : Schema)
  | propertyNames (schema : Schema)
  /-- No properties, since no name is allowed. -/
  | noNames
  | required (keys : List String)
  /-- The keys that are needed where a key is present. -/
  | dependentKeys (keys : List (String × List String))
  /-- What holds where a key is present, and whether that is taken for a description. -/
  | dependent (schemas : List (String × Schema)) (describes : Bool)
  | allOf (schemas : List Schema)
  | anyOf (schemas : List Schema)
  | oneOf (schemas : List Schema)
  /-- Not of a kind; the text is that of the schema. -/
  | not (text : String) (schema : Schema)
  | conditional (condition : Schema) (positive negative : Option Schema)
  | reference (reference : Reference)

end

/-- The address that a schema has of its own. -/
def Schema.address? : Schema → Option String
  | .object address _ => address
  | _ => none

/-- The keywords of a schema. -/
def Schema.keywords : Schema → List Keyword
  | .object _ ks => ks
  | _ => []

end TaskGraph
