import TaskGraph.Http.Message
import TaskGraph.Text.Blank

/-!
# Where a body ends

A body is cut into chunks, has the length that the headers announce, or goes on to the end of the
connection. Some responses have no body, whatever their headers say. A response that is malformed is none.
-/

set_option autoImplicit false

namespace TaskGraph.Http

open Text (Bytes bytes)

/-- A response that was received; there is no body when the connection ended before it was complete. -/
structure Received where
  status : Nat
  headers : Headers
  body : Option Bytes
  deriving Repr, DecidableEq

/-! ## Chunks -/

/-- A line and what stands behind its end. -/
def line? : Bytes → Option (Bytes × Bytes)
  | [] => none
  | [_] => none
  | b :: c :: bs =>
    if b = 13 then (if c = 10 then some ([], bs) else none)
    else (line? (c :: bs)).map fun (l, rest) => (b :: l, rest)

/-- The number in front of a chunk: hexadecimal digits, perhaps blanks, and perhaps an extension. -/
def chunkSize? (line : Bytes) : Option Nat :=
  let cs := line.map fun b => Char.ofNat b.toNat
  let digits := cs.takeWhile fun c => (Decimal.digitIn? 16 c).isSome
  let rest := (cs.drop digits.length).dropWhile fun c => c = ' ' || c = '\t'
  if digits.isEmpty || cs.contains '\n' then none
  else match rest with
    | [] | ';' :: _ => Decimal.natIn? 16 digits
    | _ => none

/-- Whether an empty line follows, with other lines in front of it; the fuel bounds their number. -/
def endsTrailers : Nat → Bytes → Bool
  | 0, _ => false
  | fuel + 1, bs => match line? bs with
    | none => false
    | some ([], _) => true
    | some (_, rest) => endsTrailers fuel rest

/-- The bytes of the chunks up to the empty one; the fuel bounds their number. -/
def chunks? : Nat → Bytes → Option Bytes
  | 0, _ => none
  | fuel + 1, bs => do
    let (line, rest) ← line? bs
    let size ← chunkSize? line
    if size = 0 then (if endsTrailers fuel rest then some [] else none)
    else if rest.length < size then none
    else match rest.drop size with
      | 13 :: 10 :: more => (chunks? fuel more).map (rest.take size ++ ·)
      | _ => none

/-! ## Lengths -/

/-- The lengths that a header announces, with commas between them. -/
def lengths? (value : String) : Option (List Nat) :=
  (Site.cut ',' value.toList).mapM fun cs =>
    Decimal.natIn? 10 (Text.trim (String.ofList cs)).toList

/-- The length that the headers announce, once or more often: no length at all, or a malformed one. -/
def announced? (hs : Headers) : Option (Option Nat) :=
  match (hs.values "content-length").mapM lengths? with
  | none => none
  | some groups => match groups.flatten with
    | [] => some none
    | n :: ns => if ns.all (· == n) then some (some n) else none

/-- Whether the last of the codings of a body is the one in chunks. -/
def isChunked (hs : Headers) : Bool :=
  match (hs.values "transfer-encoding").getLast? with
  | none => false
  | some v => match (Site.cut ',' v.toList).getLast? with
    | none => false
    | some cs => (Text.trim (String.ofList cs)).toLower = "chunked"

/-- Whether a response has no body, whatever its headers say. -/
def isBodiless (method : String) (status : Nat) : Bool :=
  method = "HEAD" || status = 204 || status = 304

namespace Response

/-- Whether a response can be understood. Those whose status is below two hundred announce another one,
but for that of a switch to another protocol. -/
def isUsable (r : Response) : Bool :=
  (r.status = 101 || 200 ≤ r.status) && r.status < 1000 &&
    r.headers.all fun h => isToken h.1 && isHeaderText h.2

/-- What the sender of a request of a method receives; nothing of a malformed response. -/
def receive? (method : String) (r : Response) : Option Received :=
  let hs : Headers := r.headers.map fun h => (h.1.toLower, trimValue h.2)
  if !r.isUsable then none
  else if isBodiless method r.status then some ⟨r.status, hs, some []⟩
  else if isChunked hs then some ⟨r.status, hs, chunks? (r.body.length + 1) r.body⟩
  else if hs.has "transfer-encoding" then some ⟨r.status, hs, some r.body⟩
  else (announced? hs).map fun
    | none => ⟨r.status, hs, some r.body⟩
    | some n => ⟨r.status, hs, if r.body.length < n then none else some (r.body.take n)⟩

end Response

end TaskGraph.Http
