import TaskGraph.Http.Url
import TaskGraph.Text.Base64

/-!
# Messages

A request has a method, an address, headers and a body; a response has a status, headers and a body. The
names of headers are in small letters. What a request says by itself, beside what its sender put into it,
stands in `Request.wireHeaders`.
-/

set_option autoImplicit false

namespace TaskGraph.Http

open Text (Bytes bytes)

/-! ## Headers -/

/-- Names and values in the order in which they are sent; a name may stand there more than once. -/
abbrev Headers := List (String × String)

namespace Headers

/-- Whether there is a header of a name. -/
def has (hs : Headers) (name : String) : Bool := hs.any (·.1 == name)

/-- The first value of a name. -/
def first? (hs : Headers) (name : String) : Option String := List.lookup name hs

/-- All values of a name. -/
def values (hs : Headers) (name : String) : List String := (hs.filter (·.1 == name)).map Prod.snd

/-- The headers without those of some names. -/
def without (hs : Headers) (names : List String) : Headers := hs.filter fun h => !names.contains h.1

/-- The headers with one value for a name. -/
def set (hs : Headers) (name value : String) : Headers := hs.without [name] ++ [(name, value)]

/-- Adds a header unless there is one of that name. -/
def default (hs : Headers) (name value : String) : Headers :=
  if hs.has name then hs else hs ++ [(name, value)]

/-- The headers in the order of their names; those of one name stay in their order. -/
def sorted (hs : Headers) : Headers := hs.mergeSort fun a b => decide (a.1 ≤ b.1)

end Headers

/-- A character that a token may hold. -/
def isTokenChar (c : Char) : Bool := c.isAlphanum || "!#$%&'*+-.^_\x60|~".toList.contains c

/-- A token: what methods and the names of headers are. -/
def isToken (s : String) : Bool := s != "" && s.toList.all isTokenChar

/-- A text that can stand in the value of a header. -/
def isHeaderText (s : String) : Bool :=
  s.toList.all fun c => c = '\t' || (32 ≤ c.toNat && c.toNat ≠ 127)

/-- A text that holds visible characters of ASCII, blanks and tabs only. -/
def isVisible (s : String) : Bool := isHeaderText s && s.toList.all fun c => c.toNat < 128

/-- A value without the blanks and tabs around it. -/
def trimValue (s : String) : String :=
  let isOuter (c : Char) : Bool := c = ' ' || c = '\t'
  String.ofList ((s.toList.dropWhile isOuter).reverse.dropWhile isOuter).reverse

/-! ## Requests -/

/-- A request; the headers are those that its sender put into it. -/
structure Request where
  method : String
  url : Url
  headers : Headers
  body : String
  deriving Repr, DecidableEq

namespace Request

/-- What requests say they were sent by. -/
def agent : String := "braid/0.1.0"

/-- The address without its fragment, which is not sent. -/
def target (r : Request) : String := r.url.withoutFragment.render

/-- All headers in the order of their names: those of the sender, and beside them what is accepted, who
sends, to which site, and how many bytes follow, if any. -/
def wireHeaders (r : Request) : Headers :=
  let length := (bytes r.body).length
  let given : Headers := r.headers.map fun h => (h.1, trimValue h.2)
  let hs := ((given.default "accept" "*/*").default "user-agent" agent).default "host" r.url.authority
  Headers.sorted (if length = 0 then hs else hs.default "content-length" (Decimal.natText length))

end Request

/-- The header that a user and a password stand for. -/
def basicAuthorization (user password : String) : String :=
  "Basic " ++ Text.Base64.encode (bytes (user ++ ":" ++ password))

/-! ## Responses -/

/-- A response as it is sent: the headers tell how long the body is. -/
structure Response where
  status : Nat
  headers : Headers
  body : Bytes
  deriving Repr, DecidableEq

/-- A response whose body is announced with a length, after which the connection is closed; without a
length, the body goes on to the end of the connection. -/
def Response.closing (status : Nat) (headers : Headers) (body : Bytes) (announced : Option Nat) :
    Response :=
  ⟨status, headers ++ announced.toList.map (fun n => ("content-length", Decimal.natText n)) ++
    [("connection", "close")], body⟩

/-- What a server does about a request. -/
inductive Reaction where
  | respond (response : Response)
  /-- Closes the connection. -/
  | close
  /-- Leaves the request without an answer. -/
  | stall
  deriving Repr, DecidableEq

/-- A server: what it does about the request of a number, counted from zero. -/
abbrev Server := Nat → Reaction

namespace Server

/-- Does what a list says, and closes the connection when the list is at its end. -/
def ofList (rs : List Reaction) : Server := fun i => (rs[i]?).getD .close

/-- Closes every connection. -/
def silent : Server := ofList []

end Server

end TaskGraph.Http
