import TaskGraph.Fault
import TaskGraph.Json.Reader
import TaskGraph.Schema.Registry
import TaskGraph.Text.Base64

/-!
# Violations

A value violates a schema at places, each of which has a pointer: the keys and indices on the way to it.
Violations are listed keyword by keyword and, inside a keyword, in the order of the schema. Some keywords
speak of the members that no other keyword describes; a keyword describes a member if it speaks of it and
allows it.
-/

set_option autoImplicit false

namespace TaskGraph.Schema

/-! ## Texts -/

/-- A key as a part of a pointer. -/
def pointerKey (key : String) : String :=
  String.ofList (key.toList.flatMap fun c =>
    if c = '~' then ['~', '0'] else if c = '/' then ['~', '1'] else [c])

/-- A pointer with one more part. -/
def inside (path part : String) : String := path ++ "/" ++ part

/-- A number with what it counts. -/
def counting (n : Nat) : Counted → String
  | .characters => Decimal.natText n ++ (if n = 1 then " character" else " characters")
  | .items => Decimal.natText n ++ (if n = 1 then " item" else " items")
  | .properties => Decimal.natText n ++ (if n = 1 then " property" else " properties")

/-- The words for a count that is too small or too large. -/
def countWords : Counted → Bool → String
  | .characters, true => " is shorter than "
  | .characters, false => " is longer than "
  | _, true => " has less than "
  | _, false => " has more than "

/-- The words for a bound that is not kept. -/
def boundWords : Bound → String
  | .minimum => " is less than the minimum of "
  | .maximum => " is greater than the maximum of "
  | .exclusiveMinimum => " is less than or equal to the minimum of "
  | .exclusiveMaximum => " is greater than or equal to the maximum of "

/-- The names of types in double quotes. -/
def typeNames (ts : List SchemaType) : String :=
  ", ".intercalate (ts.map fun t => "\"" ++ t.name ++ "\"")

/-- A text in single quotes. -/
def singleQuoted (s : String) : String := "'" ++ s ++ "'"

/-- The members of a kind that are not allowed. -/
def unexpected (kind : String) (members : List String) : String :=
  kind ++ " are not allowed (" ++ ", ".intercalate members ++
    (if members.length = 1 then " was unexpected)" else " were unexpected)")

/-- The words for a value that no schema allows. -/
def refused (v : Json) : String := "False schema does not allow " ++ v.render

/-- A value and the name of what it is not in accord with. -/
def notCompliant (v : Json) (name kind : String) : String :=
  v.render ++ " is not compliant with \"" ++ name ++ "\" " ++ kind

/-! ## Checks without parts -/

/-- Whether a number keeps a bound. -/
def keeps (b : Bound) (n limit : Number) : Bool :=
  match b, n.compare limit with
  | .minimum, o => o != .lt
  | .maximum, o => o != .gt
  | .exclusiveMinimum, o => o == .gt
  | .exclusiveMaximum, o => o == .lt

/-- The digits of a number. -/
def digitsOf (x : Float) : Decimal.Digits :=
  match Decimal.Parts.ofFloat x with
  | .finite _ digits => digits
  | _ => ⟨0, 0⟩

/-- The distance of a number from the next one above 1, which counts for nothing. -/
def smallest : Float := 2.220446049250313e-16

/-- Whether the written form of a number is a multiple of the written form of another one. -/
def isExactMultiple (x divisor : Float) : Bool :=
  let a := digitsOf x.abs
  let b := digitsOf divisor.abs
  let low := min a.exponent b.exponent
  let whole := fun (d : Decimal.Digits) => d.digits * Nat.pow 10 (d.exponent - low).toNat
  whole b != 0 && whole a % whole b == 0

/-- Whether a number is a multiple of another one. A divisor with a fraction is divided by, and what is
left of the quotient has to be next to nothing; a quotient that is too large is taken exactly. -/
def isMultiple (x divisor : Float) : Bool :=
  if divisor.floor == divisor then x.floor == x && Expr.remainder x divisor == 0.0
  else
    let rest := Expr.remainder (x / divisor) 1.0
    if rest.isNaN then isExactMultiple x divisor else rest < smallest

/-- Whether a value is a constant; numbers may be next to each other. -/
def isConstant (c v : Json) : Bool :=
  match c, v with
  | .num a, .num b => (a.toFloat - b.toFloat).abs < smallest
  | c, v => v.equal c

/-- How much there is of what is counted in a value. -/
def measure : Counted → Json → Option Nat
  | .characters, .str s => some s.length
  | .items, .arr xs => some xs.length
  | .properties, .obj m => some m.length
  | _, _ => none

/-- Whether a value keeps a bound on a count. -/
def keepsCount (counted : Counted) (atLeast : Bool) (limit : Nat) (v : Json) : Bool :=
  match measure counted v with
  | none => true
  | some n => if atLeast then limit ≤ n else n ≤ limit

/-- What a check demands: no violation if it holds, else one. -/
def demand (holds : Bool) (path message : String) : List Violation :=
  if holds then [] else [⟨path, message⟩]

/-- The violations of the requirement of keys. -/
def missing (path : String) (m : Members) (keys : List String) : List Violation :=
  (keys.filter fun k => !m.contains k).map fun k => ⟨path, Json.quote k ++ " is a required property"⟩

/-- The violations of what a text holds. Bytes that are no text are told by where they go wrong. -/
def checkContent (content : Content) (path s : String) : List Violation :=
  let notBytes := notCompliant (.str s) "base64" "content encoding"
  let notValue := notCompliant (.str s) "application/json" "media type"
  match content with
  | .bytes => demand (Text.Base64.decode? s).isSome path notBytes
  | .value => demand (Json.parse? s).isSome path notValue
  | .valueInBytes => match Text.Base64.decode? s with
    | none => [⟨path, notBytes⟩]
    | some bytes => match Text.exactText? bytes with
      | some text => demand (Json.parse? text).isSome path notValue
      | none => [⟨"", Text.flaw bytes⟩]

/-! ## Checks with parts -/

/-- A member of a value. -/
inductive Child where
  | key (key : String)
  | index (index : Nat)
  deriving DecidableEq

/-- How parts of a schema are judged from where it is read: by the violations of a value, with its
pointer, and by the members of the value that they describe. -/
structure Judge where
  violations : Schema → String → Json → List Violation
  described : Schema → Json → List Child
  violationsAt : Reference → String → Json → List Violation
  describedAt : Reference → Json → List Child

namespace Judge

/-- Whether a value is allowed. -/
def allows (j : Judge) (s : Schema) (v : Json) : Bool := (j.violations s "" v).isEmpty

/-- Checks items, the first of which has an index, against one schema. -/
def checkItems (j : Judge) (s : Schema) (path : String) : Nat → List Json → List Violation
  | _, [] => []
  | i, x :: xs =>
    j.violations s (inside path (Decimal.natText i)) x ++ checkItems j s path (i + 1) xs

/-- Checks items against a schema each. -/
def checkLeading (j : Judge) (path : String) : Nat → List Schema → List Json → List Violation
  | i, s :: ss, x :: xs =>
    j.violations s (inside path (Decimal.natText i)) x ++ checkLeading j path (i + 1) ss xs
  | _, _, _ => []

/-- Checks a member against a schema. -/
def checkMember (j : Judge) (s : Schema) (path key : String) (v : Json) : List Violation :=
  j.violations s (inside path (pointerKey key)) v

/-- Checks a member against the patterns that its key matches. -/
def checkMatching (j : Judge) (schemas : List (Pattern × Schema)) (path key : String) (v : Json) :
    List Violation :=
  (schemas.filter fun e => e.1.matchesIn key).flatMap fun e => j.checkMember e.2 path key v

/-- Whether a key is declared by name or by pattern. -/
def isDeclared (named : List (String × Schema)) (matching : List (Pattern × Schema)) (key : String) :
    Bool :=
  (named.lookup key).isSome || matching.any fun e => e.1.matchesIn key

/-- Checks a member against its declarations. -/
def checkDeclared (j : Judge) (named : List (String × Schema)) (matching : List (Pattern × Schema))
    (path key : String) (v : Json) : List Violation :=
  (match named.lookup key with
    | some s => j.checkMember s path key v
    | none => []) ++
  j.checkMatching matching path key v

/-- Whether an array has as many items of a kind as it should. -/
def containsEnough (j : Judge) (s : Schema) (least most : Option Nat) (xs : List Json) : Bool :=
  let n := (xs.filter (j.allows s)).length
  least.getD 1 ≤ n && most.all (n ≤ ·)

/-! ### Members that are described -/

/-- The keys of the members that a schema allows, out of some. -/
def keysAllowed (j : Judge) (s : Schema) (m : Members) : List Child :=
  (m.filter fun e => j.allows s e.2).map fun e => .key e.1

/-- The indices of the items that a schema allows. -/
def indicesAllowed (j : Judge) (s : Schema) : Nat → List Json → List Child
  | _, [] => []
  | i, x :: xs =>
    (if j.allows s x then [.index i] else []) ++ indicesAllowed j s (i + 1) xs

/-- The first indices. -/
def leadingIndices (n : Nat) : List Child := (List.range n).map .index

/-- The members that named properties describe. -/
def keysNamed (j : Judge) (named : List (String × Schema)) (m : Members) : List Child :=
  named.flatMap fun (key, s) => j.keysAllowed s (m.filter fun e => e.1 == key)

/-- The members that properties by pattern describe. -/
def keysMatching (j : Judge) (schemas : List (Pattern × Schema)) (m : Members) : List Child :=
  schemas.flatMap fun (p, s) => j.keysAllowed s (m.filter fun e => p.matchesIn e.1)

/-- The members that those of some schemas describe which allow a value. -/
def describedByAllowing (j : Judge) (ss : List Schema) (v : Json) : List Child :=
  (ss.filter fun s => j.allows s v).flatMap fun s => j.described s v

/-- The members of a value that a keyword describes. -/
def describes (j : Judge) (k : Keyword) (v : Json) : List Child :=
  match k, v with
  | .items _ _, .arr xs | .noMoreItems _, .arr xs => leadingIndices xs.length
  | .leadingItems ss, .arr _ => leadingIndices ss.length
  | .contains s _ _ true, .arr xs => j.indicesAllowed s 0 xs
  | .unevaluatedItems s, .arr xs => j.indicesAllowed s 0 xs
  | .properties named, .obj m => j.keysNamed named m
  | .matching schemas, .obj m => j.keysMatching schemas m
  | .onlyProperties named schemas, .obj m => j.keysNamed named m ++ j.keysMatching schemas m
  | .closed named schemas others, .obj m =>
    j.keysNamed named m ++ j.keysMatching schemas m ++ j.keysAllowed others m
  | .unevaluatedProperties s, .obj m => j.keysAllowed s m
  | .dependent schemas true, .obj m => (schemas.filter fun e => Members.contains m e.1).flatMap
      fun e => j.described e.2 v
  | .allOf ss, v | .anyOf ss, v => j.describedByAllowing ss v
  | .oneOf ss, v =>
    if (ss.filter fun s => j.allows s v).length = 1 then j.describedByAllowing ss v else []
  | .conditional condition positive negative, v =>
    if j.allows condition v then
      j.described condition v ++ (positive.toList.flatMap fun s => j.described s v)
    else negative.toList.flatMap fun s => j.described s v
  | .reference r, v => j.describedAt r v
  | _, _ => []

/-- The items that no keyword describes. -/
def itemsLeft (j : Judge) (keywords : List Keyword) (xs : List Json) : List Json :=
  let described := keywords.flatMap fun k => j.describes k (.arr xs)
  ((List.range xs.length).zip xs).filterMap fun (i, x) =>
    if described.contains (.index i) then none else some x

/-- The keys that no keyword describes. -/
def keysLeft (j : Judge) (keywords : List Keyword) (m : Members) : List String :=
  let described := keywords.flatMap fun k => j.describes k (.obj m)
  (Members.keys m).filter fun key => !described.contains (.key key)

/-! ### Keywords -/

/-- The violations of a keyword, which stands among others. -/
def check (j : Judge) (keywords : List Keyword) (k : Keyword) (path : String) (v : Json) :
    List Violation :=
  match k, v with
  | .oneType t, v => demand (t.admits v) path (v.render ++ " is not of type " ++ typeNames [t])
  | .types ts, v =>
    demand (ts.any fun t => t.admits v) path (v.render ++ " is not of types " ++ typeNames ts)
  | .const c, v => demand (isConstant c v) path (c.render ++ " was expected")
  | .enum options, v =>
    demand (options.any v.equal) path (v.render ++ " is not one of " ++ (Json.arr options).render)
  | .bound b limit, .num n =>
    demand (keeps b n limit) path (v.render ++ boundWords b ++ limit.render)
  | .multipleOf d, .num n => demand (isMultiple n.toFloat d) path
      (v.render ++ " is not a multiple of " ++ Decimal.plainLayout.write d)
  | .count counted atLeast limit, v => demand (keepsCount counted atLeast limit v) path
      (v.render ++ countWords counted atLeast ++ counting limit counted)
  | .pattern source p, .str s =>
    demand (p.matchesIn s) path (v.render ++ " does not match \"" ++ source ++ "\"")
  | .format f, .str s => demand (f.admits s) path (v.render ++ " is not a \"" ++ f.name ++ "\"")
  | .content content, .str s => checkContent content path s
  | .unique, .arr xs => demand (Json.allDistinct xs) path (v.render ++ " has non-unique elements")
  | .items skipped s, .arr xs => j.checkItems s path skipped (xs.drop skipped)
  | .leadingItems ss, .arr xs => j.checkLeading path 0 ss xs
  | .noItems, .arr xs => demand xs.isEmpty path (refused v)
  | .noMoreItems allowed, .arr xs => demand (xs.length ≤ allowed) path
      (unexpected "Additional items" ((xs.drop allowed).map Json.render))
  | .contains s least most _, .arr xs => demand (j.containsEnough s least most xs) path
      ("None of " ++ v.render ++ " are valid under the given schema")
  | .unevaluatedItems _, .arr xs =>
    let left := j.itemsLeft keywords xs
    demand left.isEmpty path
      (unexpected "Unevaluated items" (left.map fun x => singleQuoted x.render))
  | .properties named, .obj m => named.flatMap fun (key, s) => match Members.get? m key with
      | some v => j.checkMember s path key v
      | none => []
  | .matching schemas, .obj m =>
    schemas.flatMap fun e => m.flatMap fun (key, v) => j.checkMatching [e] path key v
  | .closed named schemas others, .obj m => m.flatMap fun (key, v) =>
      j.checkDeclared named schemas path key v ++
        (if isDeclared named schemas key then [] else j.checkMember others path key v)
  | .onlyProperties named schemas, .obj m =>
    let strangers := (Members.keys m).filter fun key => !isDeclared named schemas key
    (m.flatMap fun (key, v) => j.checkDeclared named schemas path key v) ++
      demand strangers.isEmpty path
        (unexpected "Additional properties" (strangers.map singleQuoted))
  | .noProperties, .obj m => (m.take 1).map fun e => ⟨path, refused e.2⟩
  | .unevaluatedProperties _, .obj m =>
    let left := j.keysLeft keywords m
    demand left.isEmpty path (unexpected "Unevaluated properties" (left.map singleQuoted))
  | .propertyNames s, .obj m => m.flatMap fun (key, _) =>
      (j.violations s path (.str key)).map fun e => ⟨path, e.message⟩
  | .noNames, .obj m => demand m.isEmpty path (refused v)
  | .required keys, .obj m => missing path m keys
  | .dependentKeys table, .obj m =>
    table.flatMap fun (key, keys) => if Members.contains m key then missing path m keys else []
  | .dependent schemas _, .obj m =>
    schemas.flatMap fun (key, s) => if Members.contains m key then j.violations s path v else []
  | .allOf ss, v => ss.flatMap fun s => j.violations s path v
  | .anyOf ss, v => demand (ss.any fun s => j.allows s v) path
      (v.render ++ " is not valid under any of the schemas listed in the 'anyOf' keyword")
  | .oneOf ss, v => match (ss.filter fun s => j.allows s v).length with
    | 0 => [⟨path,
        v.render ++ " is not valid under any of the schemas listed in the 'oneOf' keyword"⟩]
    | 1 => []
    | _ => [⟨path,
        v.render ++ " is valid under more than one of the schemas listed in the 'oneOf' keyword"⟩]
  | .not text s, v => demand (!j.allows s v) path (text ++ " is not allowed for " ++ v.render)
  | .conditional condition positive negative, v =>
    (if j.allows condition v then positive else negative).toList.flatMap
      fun s => j.violations s path v
  | .reference r, v => j.violationsAt r path v
  | _, _ => []

end Judge

/-! ## Schemas -/

/-- The judge at a standpoint, from how schemas are judged at the standpoint inside of them. -/
def Judge.at (r : Registry) (s : Standpoint)
    (violations : Standpoint → Schema → String → Json → List Violation)
    (described : Standpoint → Schema → Json → List Child) : Judge where
  violations part path v := (s.enter? part.address?).toList.flatMap fun s => violations s part path v
  described part v := (s.enter? part.address?).toList.flatMap fun s => described s part v
  violationsAt reference path v := match r.target? s reference with
    | some (s, ⟨_, _, some part⟩) => violations s part path v
    | _ => []
  describedAt reference v := match r.target? s reference with
    | some (s, ⟨_, _, some part⟩) => described s part v
    | _ => []

mutual

/-- The violations of a schema, seen from inside of it, down to a depth of nested schemas. -/
def violationsWithin (r : Registry) : Nat → Standpoint → Schema → String → Json → List Violation
  | 0, _, _, _, _ => []
  | depth + 1, s, schema, path, v => match schema with
    | .always => []
    | .never => [⟨path, refused v⟩]
    | .object _ keywords =>
      let j := Judge.at r s (violationsWithin r depth) (describedWithin r depth)
      keywords.flatMap fun k => j.check keywords k path v

/-- The members that a schema describes, seen from inside of it, down to a depth of nested schemas. -/
def describedWithin (r : Registry) : Nat → Standpoint → Schema → Json → List Child
  | 0, _, _, _ => []
  | depth + 1, s, schema, v =>
    let j := Judge.at r s (violationsWithin r depth) (describedWithin r depth)
    schema.keywords.flatMap fun k => j.describes k v

end

end TaskGraph.Schema
