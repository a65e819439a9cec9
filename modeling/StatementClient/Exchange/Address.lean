import StatementClient.Text.Digits
import StatementClient.Json.Literal
import StatementClient.Exchange.Host

/-!
# Addresses of requests

How the HTTP stack reads an address and joins a request path to its base address.

* Text is split into scheme (letters, digits, `+ . -`, starting with a letter, before a colon),
  authority (after `//`, up to `/ ? #`), path (up to `? #`), query (after `?`, up to `#`) and
  fragment (after `#`). The authority holds the user information up to its last `@`, the host,
  bracketed for IPv6, and the port after a colon.
* Each part is normalized (`Address.build`): the scheme in lower case, the host as
  `encodeHost` writes it, the port read as an integer and left out when it is the default of the
  scheme, dot segments removed from the path when there is a scheme or an authority, and every
  character that a part does not keep percent-encoded by its UTF-8 bytes.
* The raw path is the path, `/` when empty, then `?` and the query when there is one. A base
  keeps a raw path that ends in a slash (`Address.asBase`). A request path that names both a
  scheme and a host stands alone; any other is joined to the base: its raw path, without leading
  slashes, after the base's (`Address.join`).
* Query parameters replace the whole query (`Address.withParams`): no parameters leave none, and
  otherwise each value is written with `+` for blanks and every byte but the unreserved ones
  escaped.

A fault (`AddressFault`) is an invalid address, or a lone surrogate in a part to be
percent-encoded, which has no UTF-8 bytes.
-/

namespace StatementClient

/-- Whether a character is printable ASCII. -/
def isPrintableAscii (c : Char) : Bool := 0x20 ≤ c.toNat && c.toNat ≤ 0x7E

/-- Whether a fragment keeps a character: printable ASCII but blank, `"`, `<`, `>` and
the backquote. -/
def fragmentKeeps (c : Char) : Bool := isPrintableAscii c && !" \"<>`".contains c

/-- Whether a query keeps a character: printable ASCII but blank, `"`, `#`, `<` and `>`. -/
def queryKeeps (c : Char) : Bool := isPrintableAscii c && !" \"#<>".contains c

/-- Whether a path keeps a character: as a query, but not `?`, the backquote and braces. -/
def pathKeeps (c : Char) : Bool := queryKeeps c && !"?`\x7b\x7d".contains c

/-- Whether user information keeps a character: as a path, but not `/ ; = @ [ \ ] ^ |`. -/
def userinfoKeeps (c : Char) : Bool := pathKeeps c && !"/;=@[\\]^|".contains c

/-- A path without `.` and `..` segments. A `..` drops the segment before it, but never the
empty one that a path starting with a slash begins with. -/
def removeDotSegments (path : String) : String :=
  let parts := path.splitOn "/"
  if !(parts.contains "." || parts.contains "..") then path
  else
    let kept := parts.foldl (fun (acc : List String) part =>
      if part = "." then acc
      else if part = ".." then
        (if acc.isEmpty || acc = [""] then acc else acc.dropLast)
      else acc ++ [part]) []
    "/".intercalate kept

/-- The default port of a scheme. -/
def defaultPort (scheme : String) : Option Int :=
  match scheme with
  | "ftp" => some 21
  | "http" | "ws" => some 80
  | "https" | "wss" => some 443
  | _ => none

/-- The port of an address, absent when empty or the default of the scheme as written. -/
def normalizePort (port scheme : String) : Except String (Option Int) :=
  if port.isEmpty then .ok none
  else
    match Text.readInt? port with
    | none => .error ("Invalid port: " ++ Text.quoteLiteral port)
    | some p => .ok (if defaultPort scheme = some p then none else some p)

/-- Text split at the first occurrence of a character, the character dropped. -/
def splitFirst (sep : Char) (cs : List Char) : List Char × Option (List Char) :=
  match cs.findIdx? (· = sep) with
  | some k => (cs.take k, some (cs.drop (k + 1)))
  | none => (cs, none)

/-- The user information, host and port of an authority. -/
def splitAuthority (authority : String) : String × String × String :=
  let cs := authority.toList
  let (userinfo, rest) := match cs.reverse.findIdx? (· = '@') with
    | some k => (cs.take (cs.length - 1 - k), cs.drop (cs.length - k))
    | none => ([], cs)
  let closing := rest.reverse.findIdx? (· = ']')
  let (host, rest) := match rest, closing with
    | '[' :: _, some k => (rest.take (rest.length - k), rest.drop (rest.length - k))
    | _, _ => (rest.takeWhile (fun c => c ≠ ':' && c ≠ '@'),
               rest.dropWhile (fun c => c ≠ ':' && c ≠ '@'))
  let port := match rest with
    | ':' :: more => more
    | more => more
  (String.ofList userinfo, String.ofList host, String.ofList port)

/-- Whether a character may continue a scheme. -/
def isSchemeChar (c : Char) : Bool :=
  c.isAlphanum && c.toNat < 0x80 || c = '+' || c = '.' || c = '-'

/-- The scheme of an address text and the text after its colon, when it has one. -/
def splitScheme (cs : List Char) : Option (List Char × List Char) :=
  match cs with
  | ':' :: rest => some ([], rest)
  | c :: _ =>
    if c.isAlpha && c.toNat < 0x80 then
      let scheme := cs.takeWhile isSchemeChar
      match cs.drop scheme.length with
      | ':' :: rest => some (scheme, rest)
      | _ => none
    else none
  | [] => none

/-- The first ASCII control character of a text, with its position. -/
def firstControl : List Char → Nat → Option (Char × Nat)
  | [], _ => none
  | c :: rest, i =>
    if c.toNat < 0x20 || c.toNat = 0x7F then some (c, i) else firstControl rest (i + 1)

/-- The longest address text read. -/
def maxAddressLength : Nat := 65536

/-- Why text is no address: it is an invalid address (with the message that says why), or a
part to be percent-encoded holds a lone surrogate, which has no UTF-8 bytes (with the message of
that encoding error). -/
inductive AddressFault where
  | invalid (message : String)
  | unencodable (message : String)
  deriving Inhabited

/-- The class of the error an address fault raises. -/
def AddressFault.className : AddressFault → String
  | .invalid _ => "InvalidURL"
  | .unencodable _ => "UnicodeEncodeError"

/-- The message of an address fault. -/
def AddressFault.message : AddressFault → String
  | .invalid m => m
  | .unencodable m => m

/-- Text percent-encoded as `quoteWith` writes it; each character is encoded on its own, so a
lone surrogate is refused as a text of one character. -/
def quoteChecked (keeps : Char → Bool) (s : String) : Except AddressFault String :=
  match s.toList.find? fun c => (Text.surrogateOf? c).isSome with
  | some c => .error (.unencodable ((utf8Refusal? c.toString).getD ""))
  | none => .ok (quoteWith keeps s)

/-- An address: each part normalized, the host without IPv6 brackets, and a port only when it
is not the default. -/
structure Address where
  scheme : String
  userinfo : String
  host : String
  port : Option Int
  path : String
  query : Option String
  fragment : Option String
  deriving Inhabited

namespace Address

/-- The text of the authority: user information, host (bracketed when it holds a colon) and
port. -/
def authority (a : Address) : String :=
  (if a.userinfo.isEmpty then "" else a.userinfo ++ "@") ++
  (if a.host.contains ':' then "[" ++ a.host ++ "]" else a.host) ++
  (match a.port with
   | some p => ":" ++ toString p
   | none => "")

/-- The text of an address. -/
def render (a : Address) : String :=
  (if a.scheme.isEmpty then "" else a.scheme ++ ":") ++
  (let auth := a.authority; if auth.isEmpty then "" else "//" ++ auth) ++
  a.path ++
  (match a.query with
   | some q => "?" ++ q
   | none => "") ++
  (match a.fragment with
   | some f => "#" ++ f
   | none => "")

/-- The raw path: the path, `/` when empty, and the query after `?`. -/
def rawPath (a : Address) : String :=
  (if a.path.isEmpty then "/" else a.path) ++
  (match a.query with
   | some q => "?" ++ q
   | none => "")

/-- Whether the address names both a scheme and a host. -/
def isAbsolute (a : Address) : Bool := !a.scheme.isEmpty && !a.host.isEmpty

/-- The message when a path does not fit the other parts: with an authority it must be empty
or start with a slash; with neither scheme nor authority it must not start with `//` or `:`. -/
def pathFault (path : String) (hasScheme hasAuthority : Bool) : Option String :=
  if hasAuthority && !path.isEmpty && !path.startsWith "/" then
    some "For absolute URLs, path must be empty or begin with \x27/\x27"
  else if !hasScheme && !hasAuthority && path.startsWith "//" then
    some "Relative URLs cannot have a path starting with \x27//\x27"
  else if !hasScheme && !hasAuthority && path.startsWith ":" then
    some "Relative URLs cannot have a path starting with \x27:\x27"
  else none

/-- The address of its parts as written, each normalized in this order: user information,
host, port, path, query and fragment. -/
def build (scheme authority path : String) (query fragment : Option String) :
    Except AddressFault Address := do
  let (userinfo, host, port) := splitAuthority authority
  let userinfo ← quoteChecked userinfoKeeps userinfo
  let host ← (encodeHost host).mapError AddressFault.invalid
  let port ← (normalizePort port scheme).mapError AddressFault.invalid
  let scheme := Text.lower scheme
  let hasScheme := !scheme.isEmpty
  let hasAuthority := !userinfo.isEmpty || !host.isEmpty || port.isSome
  match pathFault path hasScheme hasAuthority with
  | some m => throw (.invalid m)
  | none =>
    let path := if hasScheme || hasAuthority then removeDotSegments path else path
    let path ← quoteChecked pathKeeps path
    let query ← query.mapM (quoteChecked queryKeeps)
    let fragment ← fragment.mapM (quoteChecked fragmentKeeps)
    pure { scheme, userinfo, host, port, path, query, fragment }

/-- The address written in a text. -/
def parse (url : String) : Except AddressFault Address :=
  if url.length > maxAddressLength then .error (.invalid "URL too long")
  else
    match firstControl url.toList 0 with
    | some (c, i) =>
      .error (.invalid ("Invalid non-printable ASCII character in URL, " ++
        Text.quoteLiteral c.toString ++ " at position " ++ toString i ++ "."))
    | none =>
      let cs := url.toList
      let (scheme, rest) := match splitScheme cs with
        | some (s, r) => (s, r)
        | none => ([], cs)
      let (authority, rest) := match rest with
        | '/' :: '/' :: more =>
          let auth := more.takeWhile fun c => c ≠ '/' && c ≠ '?' && c ≠ '#'
          (auth, more.drop auth.length)
        | _ => ([], rest)
      let (beforeFragment, fragment) := splitFirst '#' rest
      let (path, query) := splitFirst '?' beforeFragment
      build (String.ofList scheme) (String.ofList authority) (String.ofList path)
        (query.map String.ofList) (fragment.map String.ofList)

/-- The address with its path and query taken from a raw path. -/
def withRawPath (a : Address) (raw : String) : Except AddressFault Address :=
  let (path, query) := splitFirst '?' raw.toList
  build a.scheme a.authority (String.ofList path) (query.map String.ofList) a.fragment

/-- The address with another query. -/
def withQuery (a : Address) (query : Option String) : Except AddressFault Address :=
  build a.scheme a.authority a.path query a.fragment

/-- The address as a base to join paths to: its raw path ends in a slash. -/
def asBase (a : Address) : Except AddressFault Address :=
  if a.rawPath.endsWith "/" then .ok a else a.withRawPath (a.rawPath ++ "/")

/-- The address a request path names from this base. -/
def join (base : Address) (target : String) : Except AddressFault Address := do
  let t ← parse target
  if t.isAbsolute then pure t
  else base.withRawPath (base.rawPath ++ String.ofList (t.rawPath.toList.dropWhile (· = '/')))

end Address

/-- A query part written with `+` for blanks and every byte but the unreserved ones escaped;
the part is encoded as UTF-8 as a whole, so lone surrogates are refused by their positions in
it. -/
def quotePlus (s : String) : Except AddressFault String :=
  match utf8Refusal? s with
  | some m => .error (.unencodable m)
  | none =>
    .ok (String.join (s.toUTF8.toList.map fun b =>
      if isUnreserved b then (Char.ofNat b.toNat).toString
      else if b = 0x20 then "+"
      else "%" ++ (Text.hexDigits 2 b.toNat).toUpper))

/-- The text of one parameter value: `true`, `false`, empty for null, a string as itself, and
any other value as its literal. -/
def paramText : Json → String
  | .bool true => "true"
  | .bool false => "false"
  | .null => ""
  | v => v.display

/-- The texts of a parameter: one per item of an array, else one. -/
def paramTexts : Json → List String
  | .arr items => items.map paramText
  | v => [paramText v]

/-- The query of parameters: `name=value` pairs joined by `&`, each name and value written in
turn. -/
def encodeParams (params : List (String × Json)) : Except AddressFault String := do
  let pairs ← (params.flatMap fun (k, v) => (paramTexts v).map fun t => (k, t)).mapM
    fun (k, t) => do
      let k ← quotePlus k
      let t ← quotePlus t
      pure (k ++ "=" ++ t)
  pure ("&".intercalate pairs)

/-- The address with its query replaced by parameters; none are no query at all. -/
def Address.withParams (a : Address) :
    Option (List (String × Json)) → Except AddressFault Address
  | none => .ok a
  | some [] => a.withQuery none
  | some params => do a.withQuery (some (← encodeParams params))

end StatementClient
