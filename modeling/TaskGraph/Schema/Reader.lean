import TaskGraph.Json.Depth
import TaskGraph.Json.Printer
import TaskGraph.Schema.Basic

/-!
# Reading schemas

A schema is written as a truth value or as an object of keywords. It cannot be read if a keyword has an
argument that it cannot have; words that a draft does not know are passed over, as is all that stands
beside a reference up to the seventh draft.
-/

set_option autoImplicit false

namespace TaskGraph.Schema

/-! ## Arguments of keywords -/

/-- Reads a schema. -/
abbrev Reader := Json → Option Schema

/-- A text. -/
def text? : Json → Option String
  | .str s => some s
  | _ => none

/-- A truth value. -/
def flag? : Json → Option Bool
  | .bool b => some b
  | _ => none

/-- A number. -/
def number? : Json → Option Number
  | .num n => some n
  | _ => none

/-- A count. -/
def count? : Json → Option Nat
  | .num n => n.toNat?
  | _ => none

/-- A divisor: a number above zero. -/
def divisor? : Json → Option Float
  | .num n => if n.toFloat > 0.0 then some n.toFloat else none
  | _ => none

/-- Texts. -/
def texts? : Json → Option (List String)
  | .arr xs => xs.mapM text?
  | _ => none

/-- The items of an array. -/
def items? : Json → Option (List Json)
  | .arr xs => some xs
  | _ => none

/-- Schemas. -/
def schemas? (read : Reader) : Json → Option (List Schema)
  | .arr xs => xs.mapM read
  | _ => none

/-- Members with something read from each value. -/
def table? {α : Type} (read : Json → Option α) : Json → Option (List (String × α))
  | .obj m => m.mapM fun (k, v) => (read v).map fun a => (k, a)
  | _ => none

/-- Schemas by pattern. -/
def patterns? (read : Reader) (v : Json) : Option (List (Pattern × Schema)) := do
  (← table? read v).mapM fun (source, s) => (Pattern.parse? source).map fun p => (p, s)

/-- The type of a name in a draft; the fourth draft takes only numbers without a point for integers. -/
def type? (d : Draft) (v : Json) : Option SchemaType := do
  match ← SchemaType.ofName? (← text? v) with
  | .integer => some (if d.since .six then .integer else .writtenInteger)
  | t => some t

/-- A type or several, in the order of their names. -/
def types? (d : Draft) : Json → Option Keyword
  | .arr xs => do
    match ← xs.mapM (type? d) with
    | [] => none
    | [t] => some (.oneType t)
    | ts => some (.types (SchemaType.all.filter ts.contains))
  | v => (type? d v).map .oneType

/-- The schema of the keys that have to be there. -/
def requiring (keys : List String) : Schema := .object none [.required keys]

/-- What holds where a key is present: keys that have to be there, or a schema. -/
def dependency? (read : Reader) : Json → Option Schema
  | .arr xs => (texts? (.arr xs)).map requiring
  | v => read v

/-! ## Items -/

/-- The keyword for items. -/
def itemsKeyword? (read : Reader) (m : Members) : Json → Option Keyword
  | .arr xs => (xs.mapM read).map .leadingItems
  | v => do
    let s ← read v
    match s, (m.get? "prefixItems").bind items? with
    | .never, none => some .noItems
    | s, leading => some (.items ((leading.map List.length).getD 0) s)

/-- The keyword for items behind those that have a schema each. -/
def additionalItems? (read : Reader) (m : Members) (v : Json) : Option (Option Keyword) :=
  match m.get? "items" with
  | some (.arr xs) => (read v).map fun
    | .never => some (.noMoreItems xs.length)
    | s => some (.items xs.length s)
  | _ => some none

/-! ## Properties -/

/-- The named properties that an object of keywords declares. -/
def namedProperties (read : Reader) (m : Members) : List (String × Schema) :=
  ((m.get? "properties").bind (table? read)).getD []

/-- The properties by pattern that an object of keywords declares. -/
def patternProperties (read : Reader) (m : Members) : List (Pattern × Schema) :=
  ((m.get? "patternProperties").bind (patterns? read)).getD []

/-- Whether the rest of the properties is described, so that all of them are checked together. -/
def describesOthers (m : Members) : Bool :=
  match m.get? "additionalProperties" with
  | some (.bool b) => !b
  | some (.obj _) => true
  | _ => false

/-- The keyword for the rest of the properties. -/
def additionalProperties? (read : Reader) (m : Members) (v : Json) : Option Keyword := do
  let s ← read v
  match s with
  | .always => some (.closed [] [] .always)
  | .never =>
    if m.contains "properties" || m.contains "patternProperties" then
      some (.onlyProperties (namedProperties read m) (patternProperties read m))
    else some .noProperties
  | s => some (.closed (namedProperties read m) (patternProperties read m) s)

/-! ## Keywords -/

/-- Whether a draft has a keyword that asks for something. -/
def hasKeyword (d : Draft) (key : String) : Bool :=
  match key with
  | "const" | "contains" | "propertyNames" | "exclusiveMinimum" | "exclusiveMaximum" => d.since .six
  | "if" => d.since .seven
  | "contentEncoding" | "contentMediaType" => d == .six || d == .seven
  | "dependentRequired" | "dependentSchemas" | "unevaluatedItems" | "unevaluatedProperties" =>
    d.since .nineteen
  | "$recursiveRef" => d == .nineteen
  | "additionalItems" => !d.since .twenty
  | "prefixItems" | "$dynamicRef" => d.since .twenty
  | _ => true

/-- A bound, which the fourth draft may exclude by another keyword. -/
def boundOf (d : Draft) (m : Members) (flag : String) (within beyond : Bound) : Bound :=
  match d, m.get? flag with
  | .four, some (.bool true) => beyond
  | _, _ => within

/-- What a text holds by a kind of content, perhaps in base 64. -/
def contentOf (m : Members) (mediaType : String) : Option Content :=
  if mediaType != "application/json" then none
  else match m.get? "contentEncoding" with
    | none => some .value
    | some (.str "base64") => some .valueInBytes
    | _ => none

/-- Reads a keyword and its argument. Nothing is read from a malformed argument; a keyword that adds no
condition is read as none. -/
def keyword? (d : Draft) (read : Reader) (m : Members) (key : String) (v : Json) :
    Option (Option Keyword) :=
  match key with
  | "$ref" | "$dynamicRef" => (text? v).map fun s => some (.reference (.at s))
  | "$recursiveRef" => (text? v).map fun _ => some (.reference .whole)
  | "additionalItems" => additionalItems? read m v
  | "additionalProperties" => (additionalProperties? read m v).map some
  | "allOf" => (schemas? read v).map fun ss => some (.allOf ss)
  | "anyOf" => (schemas? read v).map fun ss => some (.anyOf ss)
  | "const" => some (some (.const v))
  | "contains" => do
    let s ← read v
    let limit := fun key => if d.since .nineteen then (m.get? key).bind count? else none
    some (some (.contains s (limit "minContains") (limit "maxContains") (d.since .twenty)))
  | "contentEncoding" => (text? v).map fun s =>
      if s == "base64" && !m.contains "contentMediaType" then some (.content .bytes) else none
  | "contentMediaType" => (text? v).map fun s => (contentOf m s).map .content
  | "dependencies" => (table? (dependency? read) v).map fun t => some (.dependent t false)
  | "dependentRequired" => (table? texts? v).map fun t => some (.dependentKeys t)
  | "dependentSchemas" => (table? read v).map fun t => some (.dependent t true)
  | "enum" => (items? v).map fun xs => some (.enum xs)
  | "exclusiveMaximum" => (number? v).map fun n => some (.bound .exclusiveMaximum n)
  | "exclusiveMinimum" => (number? v).map fun n => some (.bound .exclusiveMinimum n)
  | "format" => (text? v).map fun s =>
      if d.checksFormats then (TextFormat.ofName? d s).map .format else none
  | "if" => do
    let condition ← read v
    let branch := fun key => match m.get? key with
      | some s => (read s).map some
      | none => some none
    some (some (.conditional condition (← branch "then") (← branch "else")))
  | "items" => (itemsKeyword? read m v).map some
  | "maximum" => (number? v).map fun n =>
      some (.bound (boundOf d m "exclusiveMaximum" .maximum .exclusiveMaximum) n)
  | "maxItems" => (count? v).map fun n => some (.count .items false n)
  | "maxLength" => (count? v).map fun n => some (.count .characters false n)
  | "maxProperties" => (count? v).map fun n => some (.count .properties false n)
  | "minimum" => (number? v).map fun n =>
      some (.bound (boundOf d m "exclusiveMinimum" .minimum .exclusiveMinimum) n)
  | "minItems" => (count? v).map fun n => some (.count .items true n)
  | "minLength" => (count? v).map fun n => some (.count .characters true n)
  | "minProperties" => (count? v).map fun n => some (.count .properties true n)
  | "multipleOf" => (divisor? v).map fun x => some (.multipleOf x)
  | "not" => (read v).map fun s => some (.not v.render s)
  | "oneOf" => (schemas? read v).map fun ss => some (.oneOf ss)
  | "pattern" => do
    let source ← text? v
    let p ← Pattern.parse? source
    some (some (.pattern source p))
  | "patternProperties" => (patterns? read v).map fun t =>
      if describesOthers m then none else some (.matching t)
  | "prefixItems" => (schemas? read v).map fun ss => some (.leadingItems ss)
  | "properties" => (table? read v).map fun t =>
      if describesOthers m then none else some (.properties t)
  | "propertyNames" => (read v).map fun
    | .never => some .noNames
    | s => some (.propertyNames s)
  | "required" => (texts? v).map fun ks => some (.required ks)
  | "type" => (types? d v).map some
  | "unevaluatedItems" => (read v).map fun s => some (.unevaluatedItems s)
  | "unevaluatedProperties" => (read v).map fun s => some (.unevaluatedProperties s)
  | "uniqueItems" => (flag? v).map fun b => if b then some .unique else none
  | _ => some none

/-- The keywords of an object that are read in a draft. -/
def countedMembers (d : Draft) (m : Members) : Members :=
  if !d.readsBesideReference && m.contains "$ref" then m.filter fun e => e.1 == "$ref"
  else m.filter fun e => hasKeyword d e.1

/-- Reads a schema whose parts are nested less deep than the bound. -/
def readWithin : Nat → Draft → Reader
  | 0, _ => fun _ => none
  | depth + 1, surroundings => fun v => match v with
    | .bool true => some .always
    | .bool false => some .never
    | .obj m => do
      let d := (surroundings.ofSchema? v).getD .twenty
      let ks ← (countedMembers d m).mapM fun (key, v) => keyword? d (readWithin depth d) m key v
      some (.object (d.address? v) (ks.filterMap id))
    | _ => none

/-- Reads a schema in a draft. -/
def read (d : Draft) : Reader := fun v => readWithin (v.depth + 1) d v

end TaskGraph.Schema
