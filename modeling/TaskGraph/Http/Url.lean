import TaskGraph.Http.Site

/-!
# Addresses

An address has a scheme, perhaps a user, a site and a port, a path, a query and a fragment. Schemes of
the web are special: their addresses always have a site, and a backslash in them separates like a slash.
An address may be read as a reference from another one.
-/

set_option autoImplicit false

namespace TaskGraph.Http

/-- What stands behind the site. -/
inductive Route where
  | segments (parts : List String)
  /-- A text that is not cut into parts. -/
  | verbatim (text : String)
  deriving Repr, DecidableEq

/-- An address. -/
structure Url where
  scheme : String
  user : String
  password : Option String
  site : Option Site
  port : Option Nat
  route : Route
  query : Option String
  fragment : Option String
  deriving Repr, DecidableEq

namespace Url

/-- The port that a special scheme has by itself; other schemes are not special. -/
def specialPort? : String → Option (Option Nat)
  | "http" | "ws" => some (some 80)
  | "https" | "wss" => some (some 443)
  | "ftp" => some (some 21)
  | "file" => some none
  | _ => none

/-- Whether a scheme is special. -/
def isSpecial (scheme : String) : Bool := (specialPort? scheme).isSome

/-- A character that separates the parts of a path. -/
def isSlash (special : Bool) (c : Char) : Bool := c = '/' || (special && c = '\\')

/-! ## Paths -/

/-- A part that stays where it is. -/
def isDot (cs : List Char) : Bool :=
  let s := (String.ofList cs).toLower
  s = "." || s = "%2e"

/-- A part that goes up. -/
def isDoubleDot (cs : List Char) : Bool :=
  let s := (String.ofList cs).toLower
  s = ".." || s = ".%2e" || s = "%2e." || s = "%2e%2e"

/-- Cuts a path into its parts. -/
def cutPath (special : Bool) (cs : List Char) : List (List Char) :=
  cs.foldr (fun c parts => match isSlash special c, parts with
    | true, parts => [] :: parts
    | false, p :: ps => (c :: p) :: ps
    | false, [] => [[c]]) [[]]

/-- Follows the parts of a path from a path. -/
def follow : List String → List (List Char) → List String
  | path, [] => path
  | path, [p] =>
    if isDoubleDot p then path.dropLast ++ [""]
    else if isDot p then path ++ [""]
    else path ++ [percentEncode .path p]
  | path, p :: ps =>
    if isDoubleDot p then follow path.dropLast ps
    else if isDot p then follow path ps
    else follow (path ++ [percentEncode .path p]) ps

/-- The path that stands behind a site. -/
def pathBehind (special : Bool) (cs : List Char) : List String :=
  match cs with
  | [] => if special then [""] else []
  | c :: rest => follow [] (cutPath special (if isSlash special c then rest else c :: rest))

/-! ## Queries and fragments -/

/-- What stands in front of a query and a fragment, and these. -/
def tails (special : Bool) (cs : List Char) : List Char × Option String × Option String :=
  let fragment := match cs.dropWhile (· != '#') with
    | _ :: f => some (percentEncode .fragment f)
    | [] => none
  let cs := cs.takeWhile (· != '#')
  let query := match cs.dropWhile (· != '?') with
    | _ :: q => some (percentEncode (if special then .specialQuery else .query) q)
    | [] => none
  (cs.takeWhile (· != '?'), query, fragment)

/-! ## Authorities -/

/-- What stands in front of the last character of a kind, and what behind it. -/
def splitLast (c : Char) (cs : List Char) : Option (List Char × List Char) :=
  match cs.reverse.dropWhile (· != c) with
  | _ :: front => some (front.reverse, (cs.reverse.takeWhile (· != c)).reverse)
  | [] => none

/-- The site and what stands behind the colon after it. -/
def splitPort (inBrackets : Bool) (seen : List Char) : List Char → List Char × Option (List Char)
  | [] => (seen.reverse, none)
  | c :: cs =>
    if c = ':' && !inBrackets then (seen.reverse, some cs)
    else splitPort (if c = '[' then true else if c = ']' then false else inBrackets) (c :: seen) cs

/-- A port: up to 65535, and none when it is the one that the scheme has by itself. -/
def port? (scheme : String) (cs : List Char) : Option (Option Nat) :=
  if cs.isEmpty then some none
  else (Decimal.natIn? 10 cs).bind fun n =>
    if n > 65535 then none
    else if specialPort? scheme = some (some n) then some none
    else some (some n)

/-- An address with a site, from what stands behind the two slashes. -/
def withAuthority? (scheme : String) (cs : List Char) : Option Url :=
  let special := isSpecial scheme
  let ends (c : Char) : Bool := isSlash special c || c = '?' || c = '#'
  let authority := cs.takeWhile fun c => !ends c
  let (path, query, fragment) := tails special (cs.drop authority.length)
  let (user, password, place) := match splitLast '@' authority with
    | none => ("", none, authority)
    | some (credentials, place) =>
      let user := credentials.takeWhile (· != ':')
      let password := match credentials.dropWhile (· != ':') with
        | _ :: p => some (percentEncode .user p)
        | [] => none
      (percentEncode .user user, password.bind fun p => if p = "" then none else some p, place)
  let (site, port) := splitPort false [] place
  if site.isEmpty && (special || port.isSome || authority.contains '@') then none
  else do
    let site ← Site.parse? special site
    let port ← port? scheme (port.getD [])
    pure ⟨scheme, user, password, some site, port, .segments (pathBehind special path), query, fragment⟩

/-- An address of a file. -/
def ofFile? (cs : List Char) : Option Url :=
  let (path, query, fragment) := tails true cs
  let at_ (site : Site) (path : List Char) : Url :=
    ⟨"file", "", none, some site, none, .segments (pathBehind true path), query, fragment⟩
  match path with
  | a :: b :: rest =>
    if isSlash true a && isSlash true b then
      let name := rest.takeWhile fun c => !isSlash true c
      let path := rest.drop name.length
      if name.isEmpty then some (at_ (.domain "") path)
      else (Site.parse? true name).map fun s =>
        at_ (if s = .domain "localhost" then .domain "" else s) path
    else some (at_ (.domain "") (a :: b :: rest))
  | path => some (at_ (.domain "") path)

/-- An address from what stands behind its scheme. -/
def withScheme? (scheme : String) (cs : List Char) : Option Url :=
  if scheme = "file" then ofFile? cs
  else if isSpecial scheme then withAuthority? scheme (cs.dropWhile (isSlash true))
  else match cs with
    | '/' :: '/' :: rest => withAuthority? scheme rest
    | '/' :: rest =>
      let (path, query, fragment) := tails false ('/' :: rest)
      some ⟨scheme, "", none, none, none, .segments (pathBehind false path), query, fragment⟩
    | cs =>
      let (path, query, fragment) := tails false cs
      some ⟨scheme, "", none, none, none, .verbatim (percentEncode .control path), query, fragment⟩

/-! ## References -/

/-- The scheme at the front, in small letters, and what stands behind its colon. -/
def scheme? (cs : List Char) : Option (String × List Char) :=
  match cs with
  | [] => none
  | c :: _ =>
    let isSchemeChar (c : Char) : Bool := c.isAlphanum || c = '+' || c = '-' || c = '.'
    let name := cs.takeWhile isSchemeChar
    match cs.drop name.length with
    | ':' :: rest => if c.isAlpha then some ((String.ofList name).toLower, rest) else none
    | _ => none

/-- The parts of the path of an address. -/
def parts (u : Url) : List String :=
  match u.route with
  | .segments ps => ps
  | .verbatim _ => []

/-- A reference without a scheme, from an address. -/
def relative? (base : Url) (cs : List Char) : Option Url :=
  let special := isSpecial base.scheme
  match cs with
  | [] => some { base with fragment := none }
  | '#' :: rest => some { base with fragment := some (percentEncode .fragment rest) }
  | c :: rest =>
    if base.route != .segments base.parts then none
    else if isSlash special c then
      match rest with
      | d :: more =>
        if isSlash special d then
          withAuthority? base.scheme (if special then more.dropWhile (isSlash true) else more)
        else
          let (path, query, fragment) := tails special cs
          some { base with route := .segments (pathBehind special path), query, fragment }
      | [] => some { base with route := .segments [""], query := none, fragment := none }
    else
      let (path, query, fragment) := tails special cs
      if path.isEmpty then some { base with query, fragment }
      else some { base with
        route := .segments (follow base.parts.dropLast (cutPath special path)), query, fragment }

/-- The characters of an address without the blanks around it, tabs and line ends. -/
def clean (text : String) : List Char :=
  let isOuter (c : Char) : Bool := c.toNat ≤ 32
  let cs := ((text.toList.dropWhile isOuter).reverse.dropWhile isOuter).reverse
  cs.filter fun c => c != '\t' && c != '\n' && c != '\r'

/-- Reads an address. -/
def parse? (text : String) : Option Url :=
  (scheme? (clean text)).bind fun (scheme, rest) => withScheme? scheme rest

/-- Reads a reference from an address. A reference that repeats the special scheme of the address without
two slashes is a relative one. -/
def join? (base : Url) (text : String) : Option Url :=
  let cs := clean text
  match scheme? cs with
  | none => base.relative? cs
  | some (scheme, rest) =>
    let slashes := (rest.takeWhile (isSlash true)).length
    if scheme = base.scheme && isSpecial scheme && scheme != "file" && slashes < 2 then base.relative? rest
    else withScheme? scheme rest

/-! ## Writing -/

/-- The user and the password in front of a site. -/
def credentials (u : Url) : String :=
  if u.user = "" && u.password.isNone then ""
  else u.user ++ (match u.password with
    | some p => ":" ++ p
    | none => "") ++ "@"

/-- The site and the port. -/
def authority (u : Url) : String :=
  ((u.site.map Site.render).getD "") ++ (match u.port with
    | some p => ":" ++ Decimal.natText p
    | none => "")

/-- The text of an address. -/
def render (u : Url) : String :=
  u.scheme ++ ":" ++
    (if u.site.isSome then "//" ++ u.credentials ++ u.authority else "") ++
    (match u.route with
      | .verbatim t => t
      | .segments ps =>
        (if u.site.isNone && ps.length > 1 && ps.head? = some "" then "/." else "") ++
          String.join (ps.map fun p => "/" ++ p)) ++
    (match u.query with
      | some q => "?" ++ q
      | none => "") ++
    (match u.fragment with
      | some f => "#" ++ f
      | none => "")

/-- Whether an address leads to a site. -/
def hasSite (u : Url) : Bool :=
  match u.site with
  | none | some (.domain "") | some (.verbatim "") => false
  | some _ => true

/-- An address without its fragment. -/
def withoutFragment (u : Url) : Url := { u with fragment := none }

/-- An address without its user and password. -/
def withoutCredentials (u : Url) : Url := { u with user := "", password := none }

/-- Adds pairs to the query. -/
def withPairs (u : Url) (pairs : List (String × String)) : Url :=
  if pairs.isEmpty then u
  else
    let added := formPairs pairs
    { u with query := some (match u.query with
      | none | some "" => added
      | some q => q ++ "&" ++ added) }

end Url

end TaskGraph.Http
