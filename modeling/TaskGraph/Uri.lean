import TaskGraph.Http.Site

/-!
# References to resources

A reference has up to five parts: a scheme, an authority, a path, a query and a fragment. One with a
scheme stands for itself; any other is read from a base. Two references that are written differently may
still be the same one, so they are compared in a settled form.
-/

set_option autoImplicit false

namespace TaskGraph

/-- Who names a resource: perhaps a user, a host, and perhaps a port. -/
structure Authority where
  user : Option String
  host : String
  port : Option String
  deriving Repr, DecidableEq

/-- A reference to a resource. -/
structure Uri where
  scheme : Option String
  authority : Option Authority
  path : String
  query : Option String
  fragment : Option String
  deriving Repr, DecidableEq

namespace Uri

/-! ## Characters -/

/-- A set of characters. -/
abbrev Chars := Char → Bool

/-- Characters that always stand for themselves. -/
def isUnreserved (c : Char) : Bool := (c.toNat < 128 && c.isAlphanum) || "-._~".toList.contains c

/-- Characters that may separate parts of a part. -/
def isDelimiter (c : Char) : Bool := "!$&'()*+,;=".toList.contains c

/-- Characters beyond ASCII that a reference in any script holds. -/
def isForeign (c : Char) : Bool :=
  let n := c.toNat
  (0xA0 ≤ n && n ≤ 0xD7FF) || (0xF900 ≤ n && n ≤ 0xFDCF) || (0xFDF0 ≤ n && n ≤ 0xFFEF) ||
    (0x10000 ≤ n && n < 0xE0000 && n % 0x10000 < 0xFFFE) ||
    (0xE1000 ≤ n && n < 0xF0000 && n % 0x10000 < 0xFFFE)

/-- Characters for private use, which only a query holds. -/
def isPrivate (c : Char) : Bool :=
  let n := c.toNat
  (0xE000 ≤ n && n ≤ 0xF8FF) || (0xF0000 ≤ n && n % 0x10000 < 0xFFFE)

/-- Characters of a name, in ASCII or in any script. -/
def nameChars (anyScript : Bool) : Chars := fun c =>
  isUnreserved c || isDelimiter c || (anyScript && isForeign c)

/-- Characters of a user. -/
def userChars (anyScript : Bool) : Chars := fun c => nameChars anyScript c || c == ':'

/-- Characters of a path. -/
def pathChars (anyScript : Bool) : Chars := fun c =>
  nameChars anyScript c || c == ':' || c == '@' || c == '/'

/-- Characters of a fragment. -/
def fragmentChars (anyScript : Bool) : Chars := fun c => pathChars anyScript c || c == '?'

/-- Characters of a query. -/
def queryChars (anyScript : Bool) : Chars := fun c =>
  fragmentChars anyScript c || (anyScript && isPrivate c)

/-- Whether a text holds only some characters and bytes behind percent signs. -/
def holdsOnly (allowed : Chars) : List Char → Bool
  | '%' :: a :: b :: cs =>
    (Decimal.digitIn? 16 a).isSome && (Decimal.digitIn? 16 b).isSome && holdsOnly allowed cs
  | c :: cs => allowed c && holdsOnly allowed cs
  | [] => true

/-! ## Reading -/

/-- A text before and behind the first character of a set, which is left out. -/
def cutAt (c : Char) (cs : List Char) : List Char × Option (List Char) :=
  match cs.dropWhile (· != c) with
  | _ :: rest => (cs.takeWhile (· != c), some rest)
  | [] => (cs, none)

/-- Whether a text is a scheme. -/
def isScheme : List Char → Bool
  | c :: cs => c.isAlpha && cs.all fun c => c.isAlphanum || "+-.".toList.contains c
  | [] => false

/-- Whether a text in brackets is the number of a host, of this version or a later one. -/
def isNumber (cs : List Char) : Bool :=
  match cs with
  | c :: rest =>
    if c = 'v' || c = 'V' then
      match cutAt '.' rest with
      | (version, some name) =>
        !version.isEmpty && version.all (fun c => (Decimal.digitIn? 16 c).isSome) &&
          !name.isEmpty && name.all fun c => isUnreserved c || isDelimiter c || c == ':'
      | _ => false
    else (Http.Site.six? cs).isSome
  | [] => false

/-- Reads a host and a port. -/
def host? (anyScript : Bool) (user : Option String) (cs : List Char) : Option Authority :=
  let portOf : Option (List Char) → Option (Option String)
    | none => some none
    | some digits => if digits.all Char.isDigit then some (some (String.ofList digits)) else none
  match cs with
  | '[' :: rest => match cutAt ']' rest with
    | (number, some behind) =>
      if isNumber number then
        let host := String.ofList ('[' :: number ++ [']'])
        match behind with
        | [] => some ⟨user, host, none⟩
        | ':' :: digits => (portOf (some digits)).map fun port => ⟨user, host, port⟩
        | _ => none
      else none
    | _ => none
  | cs =>
    let (name, digits) := cutAt ':' cs
    if holdsOnly (nameChars anyScript) name then
      (portOf digits).map fun port => ⟨user, String.ofList name, port⟩
    else none

/-- Reads an authority. -/
def authority? (anyScript : Bool) (cs : List Char) : Option Authority :=
  match cutAt '@' cs with
  | (user, some rest) =>
    if holdsOnly (userChars anyScript) user then host? anyScript (some (String.ofList user)) rest
    else none
  | (rest, none) => host? anyScript none rest

/-- The scheme in front of a text, and what is behind it. A colon in the first segment ends a scheme. -/
def scheme? (cs : List Char) : Option (Option String × List Char) :=
  let first := cs.takeWhile (· != '/')
  match cutAt ':' first with
  | (_, none) => some (none, cs)
  | (s, some _) =>
    if isScheme s then some (some (String.ofList s), cs.drop (s.length + 1)) else none

/-- A part that has to hold only some characters, if it is there. -/
def part? (allowed : Chars) : Option (List Char) → Option (Option String)
  | none => some none
  | some cs => if holdsOnly allowed cs then some (some (String.ofList cs)) else none

/-- Reads a reference, in ASCII or in any script. -/
def parse? (anyScript : Bool) (s : String) : Option Uri := do
  let (cs, fragment) := cutAt '#' s.toList
  let (cs, query) := cutAt '?' cs
  let (scheme, rest) ← scheme? cs
  let (authority, path) ← match rest with
    | '/' :: '/' :: rest =>
      (authority? anyScript (rest.takeWhile (· != '/'))).map fun a =>
        (some a, rest.dropWhile (· != '/'))
    | rest => some (none, rest)
  let query ← part? (queryChars anyScript) query
  let fragment ← part? (fragmentChars anyScript) fragment
  if holdsOnly (pathChars anyScript) path then
    some ⟨scheme, authority, String.ofList path, query, fragment⟩
  else none

/-! ## The text of a reference -/

/-- A text behind a mark, if there is one. -/
def behind (mark : String) : Option String → String
  | some s => mark ++ s
  | none => ""

/-- The text of an authority. -/
def authorityText (a : Authority) : String :=
  (match a.user with
    | some u => u ++ "@"
    | none => "") ++ a.host ++ behind ":" a.port

/-- The text of a reference. -/
def render (u : Uri) : String :=
  (match u.scheme with
    | some s => s ++ ":"
    | none => "") ++
  behind "//" (u.authority.map authorityText) ++ u.path ++ behind "?" u.query ++
  behind "#" u.fragment

/-! ## The settled form -/

/-- The segments of a path. -/
def segments (path : String) : List String := (Http.Site.cut '/' path.toList).map String.ofList

/-- The segments of a path without those that stay or go up. -/
def followed : List String → List String → List String
  | above, [] => above.reverse
  | above, ["."] => ("" :: above).reverse
  | above, [".."] => ("" :: above.drop 1).reverse
  | above, "." :: parts => followed above parts
  | above, ".." :: parts => followed (above.drop 1) parts
  | above, part :: parts => followed (part :: above) parts

/-- A path from the root without segments that stay or go up. -/
def settledPath (path : String) : String :=
  match segments path with
  | "" :: parts => if parts.isEmpty then path else "/" ++ "/".intercalate (followed [] parts)
  | _ => path

/-- A text with capital letters in its bytes behind percent signs, of which those that are characters
for themselves are written so. -/
def settledText : List Char → List Char
  | '%' :: a :: b :: cs => match Decimal.digitIn? 16 a, Decimal.digitIn? 16 b with
    | some x, some y =>
      let c := Char.ofNat (16 * x + y)
      if isUnreserved c then c :: settledText cs
      else Http.percentByte (16 * x + y).toUInt8 ++ settledText cs
    | _, _ => '%' :: a :: b :: settledText cs
  | c :: cs => c :: settledText cs
  | [] => []

/-- A part in its settled form. -/
def settledPart (s : String) : String := String.ofList (settledText s.toList)

/-- A reference in its settled form. -/
def settled (u : Uri) : Uri where
  scheme := u.scheme.map String.toLower
  authority := u.authority.map fun a =>
    ⟨a.user.map settledPart, settledPart a.host.toLower, a.port.filter (· != "")⟩
  path := if u.scheme.isSome then settledPath (settledPart u.path) else settledPart u.path
  query := u.query.map settledPart
  fragment := u.fragment.map settledPart

/-! ## Reading from a base -/

/-- A path as seen from the base. -/
def pathFrom (base : Uri) (path : String) : String :=
  if base.authority.isSome && base.path == "" then "/" ++ path
  else "/".intercalate ((segments base.path).dropLast ++ [path])

/-- A reference read from a base. -/
def readFrom (base u : Uri) : Uri :=
  if u.scheme.isSome then u
  else if u.authority.isSome then { u with scheme := base.scheme }
  else if u.path == "" then
    ⟨base.scheme, base.authority, base.path, u.query <|> base.query, u.fragment⟩
  else if u.path.startsWith "/" then { u with scheme := base.scheme, authority := base.authority }
  else ⟨base.scheme, base.authority, pathFrom base u.path, u.query, u.fragment⟩

/-- Whether relative paths can be read from a base. -/
def hasPlaces (base : Uri) : Bool := base.authority.isSome || base.path.startsWith "/"

/-- Reads a text as a reference from a base, in its settled form. -/
def resolve? (base : Uri) (s : String) : Option Uri := do
  let u ← parse? false s
  if u.scheme.isNone && u.path != "" && !base.hasPlaces then none
  else some (base.readFrom u).settled

end Uri

end TaskGraph
