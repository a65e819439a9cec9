import StatementClient.Config.Settings

/-!
# Setting up logging

Logging is opt-in. `LogState.configure` routes the client's events to one handler of its own, named
`scopedb_client`, at the level the settings name, and leaves the root logger alone. It takes the
handlers of that name off the client's logger, one at a time from the list as it stood before the
first removal, and adds a new one; handlers of other names stay. The HTTP stack logs its
per-request lines only when the client logs at `DEBUG` or below, and at `WARNING` otherwise. Events
are rendered as JSON in production and for a console elsewhere.

A level name is read in any case; one that names no level means `INFO`.

Others may add handlers to the client's logger between two configurations (`LogEvent`). A logger
keeps each handler once: adding one it holds already changes nothing, and removing one takes away
its first occurrence.
-/

namespace StatementClient

/-- The levels of a logger, from the least severe. -/
inductive LogLevel where
  | notSet
  | debug
  | info
  | warning
  | error
  | critical
  deriving DecidableEq, Inhabited

namespace LogLevel

/-- The number of a level. -/
def value : LogLevel → Nat
  | .notSet => 0
  | .debug => 10
  | .info => 20
  | .warning => 30
  | .error => 40
  | .critical => 50

/-- The name of a level. -/
def name : LogLevel → String
  | .notSet => "NOTSET"
  | .debug => "DEBUG"
  | .info => "INFO"
  | .warning => "WARNING"
  | .error => "ERROR"
  | .critical => "CRITICAL"

/-- The level of an uppercase name, with the old spellings `FATAL` and `WARN`. -/
def ofName? : String → Option LogLevel
  | "NOTSET" => some .notSet
  | "DEBUG" => some .debug
  | "INFO" => some .info
  | "WARN" | "WARNING" => some .warning
  | "ERROR" => some .error
  | "FATAL" | "CRITICAL" => some .critical
  | _ => none

end LogLevel

/-- A character in upper case, as far as level names are concerned: the ASCII letters, the dotless
`ı` and the long `ſ`. -/
def upperChar (c : Char) : Char :=
  if c = 'ı' then 'I' else if c = 'ſ' then 'S' else c.toUpper

/-- The level a setting names, `INFO` when it names none. -/
def levelOfSetting (s : String) : LogLevel :=
  (LogLevel.ofName? (String.ofList (s.toList.map upperChar))).getD .info

/-- The level of the HTTP stack's loggers when the client logs at `level`. -/
def httpLevelFor (level : LogLevel) : LogLevel :=
  if level.value ≤ LogLevel.debug.value then .debug else .warning

/-- How events are rendered. -/
inductive Renderer where
  | json
  | console
  deriving DecidableEq, Inhabited

/-- The name of a renderer. -/
def Renderer.name : Renderer → String
  | .json => "JSONRenderer"
  | .console => "ConsoleRenderer"

/-- The renderer for an environment: JSON in production, whatever the case of its name. -/
def rendererFor (environment : String) : Renderer :=
  if environment.toLower = "production" then .json else .console

/-- A handler on a logger: the serial number that tells it from every other handler, and its name
when it was given one. -/
structure Handler where
  serial : Nat
  name : Option String
  deriving DecidableEq, Inhabited

namespace Handler

/-- The name of the client's own handler. -/
def clientName : String := "scopedb_client"

/-- Whether a handler bears the name of the client's own handler. -/
def isClients (h : Handler) : Bool := h.name == some clientName

/-- Adds a handler to a logger's handlers: last, unless the logger holds it already. -/
def attach (h : Handler) (hs : List Handler) : List Handler :=
  if h ∈ hs then hs else hs ++ [h]

/-- Removes a handler from a logger's handlers: its first occurrence, if any. -/
def detach (h : Handler) (hs : List Handler) : List Handler :=
  hs.erase h

end Handler

/-- The logging state of the client's logger tree. -/
structure LogState where
  /-- The handlers of the client's logger, in the order they were added. -/
  handlers : List Handler := []
  level : LogLevel := .notSet
  propagate : Bool := true
  httpxLevel : LogLevel := .notSet
  httpcoreLevel : LogLevel := .notSet
  renderer : Renderer := .console
  /-- The handlers of the root logger. -/
  rootHandlers : List Handler := []
  /-- The number of handlers made so far, which is the serial number of the next one. -/
  made : Nat := 0
  deriving Inhabited

/-- What happens to the logging state: the client configures it, or someone adds a handler to the
client's logger. -/
inductive LogEvent where
  | configure (s : Settings)
  | addHandler (h : Handler)
  deriving Inhabited

namespace LogState

/-- Logging configured from settings: the handlers of the client's name taken off, a new one
added, the named level, no propagation. -/
def configure (s : Settings) (st : LogState) : LogState :=
  let level := levelOfSetting s.logLevel
  let stale := st.handlers.filter Handler.isClients
  let kept := stale.foldl (fun hs h => Handler.detach h hs) st.handlers
  let handler : Handler := ⟨st.made, some Handler.clientName⟩
  { st with
    handlers := Handler.attach handler kept, made := st.made + 1, level, propagate := false,
    httpxLevel := httpLevelFor level, httpcoreLevel := httpLevelFor level,
    renderer := rendererFor s.environment }

/-- A handler added to the client's logger. -/
def addHandler (h : Handler) (st : LogState) : LogState :=
  { st with handlers := Handler.attach h st.handlers }

/-- The state after one event. -/
def step (st : LogState) : LogEvent → LogState
  | .configure s => st.configure s
  | .addHandler h => st.addHandler h

/-- The state after events, in their order. -/
def run (st : LogState) (events : List LogEvent) : LogState :=
  events.foldl step st

end LogState

end StatementClient
