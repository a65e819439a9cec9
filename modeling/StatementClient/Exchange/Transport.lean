import StatementClient.Exchange.Outcome
import StatementClient.Exchange.Request
import StatementClient.Exchange.Address
import StatementClient.Exchange.MediaType
import StatementClient.Json.Compact
import StatementClient.Config.Settings
import StatementClient.Bytes.Inflate

/-!
# The HTTP transport

A transport sends one request and reports what happened as an `Outcome`; it never retries and
never raises for a failure of the network, which comes back as a transport failure for the
policy to judge.

* Its base address is the endpoint without trailing slashes, read as an `Address` whose raw path
  ends in a slash (`base`). A request is joined to it and given its parameters, and a document
  body must hold no infinity or NaN (`prepare`).
* An answer's headers must encode as ASCII, and the address must name a scheme, for the cookie
  store reads it before the body is (`deliver`).
* `receive` reads what the network answered. A request error, raised by the request or while the
  body of a 2xx answer is read, is a transport failure. A failure while reading the body of any
  other answer is kept on the response, with an empty body. Faults of other classes propagate.
  A body is decoded by the codings its `Content-Encoding` names (`Bytes.gunzip`, and for
  deflate the zlib wrapper or else raw data); a body that does not decode is a `DecodingError`.
* The charset of a response is the `charset` parameter of its `Content-Type`, in lower case.
* The connection pool is made on first use, kept while open, and made anew after closing
  (`Pool`).
-/

namespace StatementClient

/-- The limits of a connection pool. -/
structure Limits where
  maxKeepalive : Int := 5
  maxConnections : Int := 10
  keepaliveExpiry : Float := 30.0
  deriving Inhabited

/-- A transport: its base address, its timeout per attempt, and its pool limits. -/
structure Transport where
  baseUrl : String
  timeout : Json
  limits : Limits
  deriving Inhabited

/-- Text without the slashes at its end. -/
def dropTrailingSlashes (s : String) : String :=
  String.ofList (s.toList.reverse.dropWhile (· = '/')).reverse

namespace Transport

/-- A transport for an endpoint. -/
def make (endpoint : String) (timeout : Json) (limits : Limits) : Transport :=
  ⟨dropTrailingSlashes endpoint, timeout, limits⟩

/-- The transport the settings describe. -/
def ofSettings (s : Settings) : Transport :=
  make s.endpoint (.float s.httpTimeout)
    { maxKeepalive := s.maxKeepaliveConnections, maxConnections := s.maxConnections }

/-- The text of a transport. -/
def describe (t : Transport) : String :=
  "HttpxTransport(base_url=" ++ t.baseUrl ++ ", timeout=" ++ t.timeout.display ++ "s)"

/-- The base address of the connection pool: the endpoint read as an address, its raw path
ending in a slash. -/
def base (t : Transport) : Except AddressFault Address := do
  let a ← Address.parse t.baseUrl
  a.asBase

end Transport

/-- The request errors of the HTTP stack: a fault of one of these classes means no usable
response. -/
def requestErrorClasses : List String :=
  ["RequestError", "TransportError", "TimeoutException", "ConnectTimeout", "ReadTimeout",
   "WriteTimeout", "PoolTimeout", "NetworkError", "ConnectError", "ReadError", "WriteError",
   "CloseError", "ProtocolError", "LocalProtocolError", "RemoteProtocolError", "ProxyError",
   "UnsupportedProtocol", "DecodingError", "TooManyRedirects"]

/-- Whether a fault is a request error. -/
def Fault.isRequestError (f : Fault) : Bool := requestErrorClasses.contains f.className

/-- What the network answered: a status, headers, the body's bytes, and a fault raised after
them while streaming. -/
structure Answer where
  status : Json
  headers : List (String × String)
  body : List UInt8
  streamFault : Option Fault
  deriving Inhabited

/-- What became of a request on the network. -/
inductive Delivery where
  /-- The request raised before any answer. -/
  | raised (f : Fault)
  /-- An answer came. -/
  | answered (a : Answer)
  deriving Inhabited

/-- The values of a header, joined by `, `. -/
def headerValue (headers : List (String × String)) (name : String) : Option String :=
  match headers.filter fun (k, _) => k.toLower = name.toLower with
  | [] => none
  | hs => some (", ".intercalate (hs.map Prod.snd))

/-- The charset an answer announces. -/
def Answer.charset (a : Answer) : Option String :=
  (headerValue a.headers "content-type").bind contentCharset

/-- The content codings the transport undoes. -/
inductive ContentCoding where
  | gzip
  | deflate
  | identity
  deriving DecidableEq, Inhabited

/-- The coding of a name; unknown codings are left alone. -/
def ContentCoding.ofName? (name : String) : Option ContentCoding :=
  match (Text.trim name).toLower with
  | "gzip" => some .gzip
  | "deflate" => some .deflate
  | "identity" => some .identity
  | _ => none

/-- A coding undone. Deflate data is tried with the zlib wrapper first and, when that fails, as
raw deflate data. -/
def ContentCoding.undo (c : ContentCoding) (body : Array UInt8) : Except String (Array UInt8) :=
  match c with
  | .gzip => Bytes.gunzip body
  | .deflate =>
    match Bytes.unzlib body with
    | .ok out => .ok out
    | .error _ => Bytes.inflateRaw body
  | .identity => .ok body

/-- The codings an answer announces, in the order they are undone: the last applied first. -/
def Answer.codings (a : Answer) : List ContentCoding :=
  ((a.headers.filter fun (k, _) => k.toLower = "content-encoding").flatMap fun (_, v) =>
    (v.splitOn ",").filterMap ContentCoding.ofName?).reverse

/-- The fault of a body that does not decode. -/
def decodingFault (why : String) : Fault :=
  ⟨"DecodingError", "Error -3 while decompressing data: " ++ why⟩

/-- The body of an answer as read: decoding faults first, then the stream's fault. -/
def Answer.read (a : Answer) : Except Fault (List UInt8) :=
  let decoded := a.codings.foldlM (fun body c => c.undo body) a.body.toArray
  match decoded with
  | .error why => .error (decodingFault why)
  | .ok body =>
    match a.streamFault with
    | some f => .error f
    | none => .ok body.toList

/-- The fault of a refused status. -/
def StatusFault.fault (f : StatusFault) : Fault := ⟨f.className, f.message⟩

/-- The outcome of a delivery, or the fault that propagates. -/
def receive : Delivery → Except Fault Outcome
  | .raised f => if f.isRequestError then .ok (.failure f) else .error f
  | .answered a =>
    let make (bytes : List UInt8) (bodyFault : Option Fault) : Except Fault Outcome :=
      match Response.make a.status bytes a.charset bodyFault with
      | .ok r => .ok (.response r)
      | .error f => .error f.fault
    match a.read with
    | .ok bytes => make bytes none
    | .error f =>
      if !f.isRequestError then .error f
      else
        let success := match a.status.number? with
          | some n => n.within 200 300
          | none => false
        if success then .ok (.failure f) else make [] (some f)

/-- A request as it leaves: method, address and body. -/
structure Dispatch where
  method : Method
  url : String
  body : Option Json
  deriving Inhabited

mutual

/-- Whether every float in a document is finite. -/
def Json.allFinite : Json → Bool
  | .float x => !(x.isNaN || x.isInf)
  | .arr items => allFiniteItems items
  | .obj fields => allFiniteFields fields
  | _ => true

/-- Whether every float in some documents is finite. -/
def allFiniteItems : List Json → Bool
  | [] => true
  | x :: rest => x.allFinite && allFiniteItems rest

/-- Whether every float in the values of some members is finite. -/
def allFiniteFields : List (String × Json) → Bool
  | [] => true
  | (_, v) :: rest => v.allFinite && allFiniteFields rest

end

/-- The fault of text that does not encode as UTF-8: the first run of lone surrogates. -/
def utf8Fault (s : String) : Option Fault :=
  (utf8Refusal? s).map fun m => ⟨"UnicodeEncodeError", m⟩

/-- A request made ready from a base address: its path joined and its parameters set, then its
body checked: a document body is written compactly, keeping characters beyond ASCII, without
infinities or NaN, and must encode as UTF-8. -/
def prepare (base : Address) (r : Request) : Except Fault Dispatch := do
  let target ← (base.join r.path >>= fun a => a.withParams r.query).mapError
    fun f => (⟨f.className, f.message⟩ : Fault)
  match r.body with
  | none => pure ⟨r.method, target.render, none⟩
  | some b =>
    if !b.allFinite then throw ⟨"ValueError", "Out of range float values are not JSON compliant"⟩
    match utf8Fault (Json.compactWith Text.escapeDocument b) with
    | some f => throw f
    | none => pure ⟨r.method, target.render, some b⟩

/-- The fault of text that does not encode as ASCII: the first run of other characters. -/
def asciiFault (s : String) : Option Fault :=
  let cs := s.toList
  match cs.findIdx? (·.toNat ≥ 0x80) with
  | none => none
  | some start =>
    let run := ((cs.drop start).takeWhile (·.toNat ≥ 0x80)).length
    let c := cs.getD start ' '
    let shown :=
      if let some n := Text.surrogateOf? c then "\\u" ++ Text.hexDigits 4 n
      else if c.toNat ≤ 0xFF then "\\x" ++ Text.hexDigits 2 c.toNat
      else if c.toNat ≤ 0xFFFF then "\\u" ++ Text.hexDigits 4 c.toNat
      else "\\U" ++ Text.hexDigits 8 c.toNat
    let what :=
      if run = 1 then "character \x27" ++ shown ++ "\x27 in position " ++ toString start
      else "characters in position " ++ toString start ++ "-" ++ toString (start + run - 1)
    some ⟨"UnicodeEncodeError",
      "\x27ascii\x27 codec can\x27t encode " ++ what ++ ": ordinal not in range(128)"⟩

/-- The fault of headers that do not encode as ASCII, name before value, header by header. -/
def headersFault (headers : List (String × String)) : Option Fault :=
  headers.findSome? fun (k, v) => (asciiFault k).orElse fun _ => asciiFault v

/-- Whether an address text starts with a scheme: some characters other than `/` and `:`, then
a colon. -/
def hasUrlType (url : String) : Bool :=
  let cs := url.toList
  match cs.findIdx? (fun c => c = '/' || c = ':') with
  | some k => k > 0 && cs.getD k ' ' = ':'
  | none => false

/-- The fault of an address the cookie store cannot read: one without a scheme. -/
def cookieFault (url : String) : Option Fault :=
  let cs := url.toList
  let (front, fragment) := match cs.reverse.findIdx? (· = '#') with
    | some k => (cs.take (cs.length - 1 - k), cs.drop (cs.length - k))
    | none => (cs, [])
  let front := String.ofList front
  if hasUrlType front then none
  else
    let full := if fragment.isEmpty then front else front ++ "#" ++ String.ofList fragment
    some ⟨"ValueError", "unknown url type: " ++ Text.quoteLiteral full⟩

/-- What a sent request came to: an answer's headers must encode as ASCII, and its address must
name a scheme for the cookie store, before the body is read. -/
def deliver (d : Dispatch) : Delivery → Except Fault Outcome
  | .raised f => receive (.raised f)
  | .answered a =>
    match headersFault a.headers with
    | some f => .error f
    | none =>
      match cookieFault d.url with
      | some f => .error f
      | none => receive (.answered a)

/-- A connection pool over time: the one in use, if open, and how many were made. -/
structure Pool where
  current : Option Nat := none
  made : Nat := 0
  deriving Inhabited

namespace Pool

/-- The pool in use, made when there is none open. -/
def acquire (p : Pool) : Nat × Pool :=
  match p.current with
  | some c => (c, p)
  | none => (p.made, { current := some p.made, made := p.made + 1 })

/-- The pool closed. -/
def release (p : Pool) : Pool := { p with current := none }

/-- Whether the pool is closed. -/
def isClosed (p : Pool) : Bool := p.current.isNone

end Pool

end StatementClient
