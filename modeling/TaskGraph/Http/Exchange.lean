import TaskGraph.Http.Framing

/-!
# Exchanges

An exchange begins with a request and goes on with further ones while the responses lead elsewhere and
the sender follows. It ends with a response, with an error, or with a server that does not answer.
-/

set_option autoImplicit false

namespace TaskGraph.Http

/-- Why an exchange came to no response. -/
inductive ExchangeError where
  /-- A method is no token. -/
  | method
  /-- A header or an address is malformed. -/
  | malformed
  /-- An address that cannot be asked. -/
  | unsuitable (url : Url)
  /-- The connection ended without a response that can be understood. -/
  | unanswered (url : Url)
  /-- The response of this address leads on once too often. -/
  | tooManyRedirects (url : Url)
  deriving Repr, DecidableEq

namespace ExchangeError

/-- The wording of an error. -/
def message : ExchangeError → String
  | method => "invalid HTTP method"
  | malformed => "builder error"
  | unsuitable u => "builder error for url (" ++ u.render ++ ")"
  | unanswered u => "error sending request for url (" ++ u.render ++ ")"
  | tooManyRedirects u => "error following redirect for url (" ++ u.render ++ ")"

/-- Whether another attempt may mend it. -/
def isRetryable : ExchangeError → Bool
  | method | malformed | unsuitable _ => false
  | unanswered _ | tooManyRedirects _ => true

end ExchangeError

/-- How an exchange ends. -/
inductive ExchangeEnd where
  | received (response : Received)
  | failed (error : ExchangeError)
  /-- The server does not answer. -/
  | stalled
  deriving Repr, DecidableEq

/-- The requests of an exchange in their order, and its end. -/
structure Exchange where
  sent : List Request
  ending : ExchangeEnd
  deriving Repr, DecidableEq

/-! ## Addresses -/

namespace Url

/-- The port that is connected to. -/
def effectivePort (u : Url) : Option Nat := u.port.orElse fun _ => (specialPort? u.scheme).join

/-- Whether two addresses lead to the same site and port. -/
def sameSite (u v : Url) : Bool := u.site == v.site && u.effectivePort == v.effectivePort

/-- Whether the site of an address can be asked for: sites that hold quotes or braces cannot. -/
def isAskable (u : Url) : Bool :=
  u.hasSite && match u.site with
    | some (.domain name) => !name.toList.any fun c => c = '"' || c = '\x60' || c = '\x7b' || c = '\x7d'
    | _ => true

/-- Whether an address can stand for the next request. One without a site can if its text could be a
site. -/
def canFollow (u : Url) : Bool :=
  match u.site, u.route with
  | none, .verbatim t => u.query.isNone && u.fragment.isNone &&
      !t.toList.any fun c => " /:%\"<>\\^\x60\x7b|\x7d".toList.contains c
  | _, _ => u.isAskable

end Url

/-! ## Redirects -/

/-- The number of times that a sender follows in one exchange. -/
def redirectLimit : Nat := 5

/-- The statuses that lead to another address. -/
def isRedirect (status : Nat) : Bool := [301, 302, 303, 307, 308].contains status

/-- The headers that describe a body. -/
def payloadHeaders : List String :=
  ["content-length", "content-type", "content-encoding", "transfer-encoding"]

/-- The headers that another site is not told. -/
def sensitiveHeaders : List String :=
  ["authorization", "cookie", "cookie2", "proxy-authorization", "www-authenticate"]

namespace Request

/-- The request that is sent in place of one when a response of a status leads to an address. -/
def redirected (r : Request) (status : Nat) (next : Url) : Request :=
  let r : Request :=
    if status = 307 || status = 308 then r
    else { r with
      method := if r.method = "GET" || r.method = "HEAD" then r.method else "GET"
      headers := r.headers.without payloadHeaders
      body := "" }
  let hs := r.headers.set "referer" r.url.withoutCredentials.withoutFragment.render
  { r with url := next, headers := if next.sameSite r.url then hs else hs.without sensitiveHeaders }

end Request

/-- The address that a response leads to. -/
def Received.leadsTo? (r : Received) (from_ : Url) : Option Url :=
  if !isRedirect r.status then none
  else (r.headers.first? "location").bind fun value =>
    let bs := value.toList.map fun c => c.toNat.toUInt8
    (Text.exactText? bs).bind fun text =>
      (from_.join? text).filter Url.canFollow

/-! ## The exchange -/

namespace Exchange

/-- What a request comes to by itself, given the number of requests that the server has had before. -/
def answer (server : Server) (earlier : Nat) (r : Request) : ExchangeEnd :=
  match server earlier with
  | .stall => .stalled
  | .close => .failed (.unanswered r.url)
  | .respond response => match response.receive? r.method with
    | none => .failed (.unanswered r.url)
    | some received => .received received

/-- Sends a request and follows where the responses lead, for a number of times. -/
def follow (server : Server) : Nat → Nat → Request → Exchange
  | left, earlier, r => match answer server earlier r with
    | .received response => match response.leadsTo? r.url, left with
      | none, _ => ⟨[r], .received response⟩
      | some _, 0 => ⟨[r], .failed (.tooManyRedirects r.url)⟩
      | some next, left + 1 =>
        if next.scheme != "http" then ⟨[r], .failed (.unsuitable next)⟩
        else
          let rest := follow server left (earlier + 1) (r.redirected response.status next)
          ⟨r :: rest.sent, rest.ending⟩
    | ending => ⟨[r], ending⟩

/-- Sends a request to a server that has had a number of requests before. -/
def run (server : Server) (earlier : Nat) (follows : Bool) (r : Request) : Exchange :=
  if r.url.scheme != "http" || !r.url.isAskable then ⟨[], .failed (.unsuitable r.url)⟩
  else if follows then follow server redirectLimit earlier r
  else ⟨[r], answer server earlier r⟩

end Exchange

end TaskGraph.Http
