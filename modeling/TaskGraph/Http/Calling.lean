import TaskGraph.Document.Payload
import TaskGraph.Fault
import TaskGraph.Http.Exchange
import TaskGraph.Json.Printer
import TaskGraph.Json.Reader

/-!
# HTTP calls

The request that a call makes, and what the call returns of the response. A response whose status is not
one of success is a fault, and so is an exchange without a response.
-/

set_option autoImplicit false

namespace TaskGraph

open Http

namespace Http.Url

/-- The user and the password of an address, if there is one of them and the user is a text. -/
def login? (u : Url) : Option (String × String) :=
  if u.user = "" && u.password.isNone then none
  else (Text.exactText? (percentDecode u.user.toList)).map fun user =>
    (user, (u.password.bind fun p => Text.exactText? (percentDecode p.toList)).getD "")

end Http.Url

namespace HttpCall

/-- The headers of a call behind the one that its address stands for, if they can be sent. -/
def headers? (c : HttpCall) (login : Option (String × String)) : Option Headers :=
  let own := c.headers.map fun (k, v) => (k.toLower, v.plain)
  let front := login.toList.map fun (user, password) =>
    ("authorization", basicAuthorization user password)
  if own.all fun h => isToken h.1 && isHeaderText h.2 then some (front ++ own) else none

/-- The body of a call, with the headers that describe it. -/
def withBody (c : HttpCall) (headers : Headers) : Headers × String :=
  match c.body with
  | none => (headers, "")
  | some (.str s) => (headers, s)
  | some v => (headers.default "content-type" "application/json", v.render)

/-- The request of a call. -/
def request (c : HttpCall) : Except ExchangeError Request :=
  if !isToken c.verb then .error .method
  else match Url.parse? c.endpoint.address with
    | none => .error .malformed
    | some u =>
      if !u.hasSite then .error (.unsuitable u)
      else
        let login := u.login?
        match c.headers? login with
        | none => .error .malformed
        | some hs =>
          let (hs, body) := c.withBody hs
          let u := if login.isSome then u.withoutCredentials else u
          .ok ⟨c.verb, u.withPairs (c.query.map fun (k, v) => (k, v.plain)), hs, body⟩

/-- The exchange of a call with a server that has had a number of requests before. -/
def exchange (server : Server) (earlier : Nat) (c : HttpCall) : Exchange :=
  match c.request with
  | .ok r => Exchange.run server earlier c.redirect r
  | .error e => ⟨[], .failed e⟩

/-! ## Results -/

/-- What a body says: nothing, JSON, or a text. -/
def content (body : Text.Bytes) : Json :=
  if body.isEmpty then .null
  else match (Text.exactText? body).bind Json.parse? with
    | some v => v
    | none => .str (Text.ofBytes body)

/-- The headers of a response that can be shown; of one name, the last one. -/
def shownHeaders (hs : Headers) : Members :=
  Members.insertAll [] ((hs.filter fun h => isVisible h.2).map fun (k, v) => (k, .str v))

/-- What a call returns of a response with a body. -/
def shown (output : HttpOutput) (r : Received) (body : Text.Bytes) : Json :=
  match output with
  | .content => content body
  | .response => .object [("statusCode", .nat r.status), ("headers", .obj (shownHeaders r.headers)),
      ("content", content body)]
  | .raw => .str (Text.Base64.encode body)

/-- What a call comes to with a response. -/
def outcome (c : HttpCall) (r : Received) : Except Fault Json :=
  if r.status < 200 || 300 ≤ r.status then .error (.httpStatus c.endpoint.address r.status)
  else match r.body with
    | some body => .ok (shown c.output r body)
    | none => .error (.callFailed c.identifier
        "failed to read body: error decoding response body" true)

/-- What a call comes to with an exchange; nothing if the server does not answer. -/
def result? (c : HttpCall) (e : Exchange) : Option (Except Fault Json) :=
  match e.ending with
  | .received r => some (c.outcome r)
  | .failed f => some (.error (.callFailed c.identifier f.message f.isRetryable))
  | .stalled => none

/-- All requests of some calls, made one after the other. -/
def sentBy (server : Server) (calls : List HttpCall) : List Request :=
  calls.foldl (fun sent c => sent ++ (c.exchange server sent.length).sent) []

/-- Makes one call, in a time: the requests that are sent, and the result. -/
def execute (server : Server) (c : HttpCall) (timeout : Duration) : List Request × Except Fault Json :=
  let e := c.exchange server 0
  (e.sent, (c.result? e).getD (.error (.callTimeout c.identifier (timeout.toMillis % Nat.pow 2 64))))

end HttpCall

end TaskGraph
