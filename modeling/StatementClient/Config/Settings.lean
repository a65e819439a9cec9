import StatementClient.Schema.Check
import StatementClient.Text.Case

/-!
# Client settings

The settings of a client: where the service is, how long an attempt may take, the size of the
connection pool, the retry budget, and how logging is set up. Each has a default. Given values
are matched to settings by name in lower case, the first match winning; unknown names are ignored. Every given
value is checked by the lax rules of its type (`Check`), and two settings have a rule of their
own: the base delay is not negative and the jitter lies in [0, 1). Defaults are taken as they
are.
-/

namespace StatementClient

/-- The settings of a client. -/
structure Settings where
  endpoint : String := "http://localhost:6543"
  httpTimeout : Float := 60.0
  maxConnections : Int := 10
  maxKeepaliveConnections : Int := 5
  retryBaseDelay : Float := 1.0
  retryJitter : Float := 0.15
  retryMaxElapsed : Option Float := some 60.0
  retryMaxAttempts : Option Int := none
  configureLogging : Bool := false
  logLevel : String := "INFO"
  environment : String := "development"
  deriving Inhabited

namespace Settings

/-- The value given for setting `name`: the first one whose name is `name` in lower case. -/
def given (fields : List (String × Json)) (name : String) : Option Json :=
  (fields.find? fun (k, _) => Text.lower k = Text.lower name).map Prod.snd

/-- Setting `name` checked by `check`, or `default` when it is not given. -/
def setting {α : Type} (fields : List (String × Json)) (name : String) (check : Json → Checked α)
    (default : α) : Checked α :=
  match given fields name with
  | some v => Checked.under (.field name) (check v)
  | none => .ok default

/-- A jitter in [0, 1); a NaN is outside. -/
def checkJitter (x : Float) : Checked Float :=
  if 0.0 ≤ x ∧ x < 1.0 then .ok x
  else Checked.fail (.valueError "RETRY_JITTER must be in [0, 1)")

/-- A base delay that is not negative. -/
def checkBaseDelay (x : Float) : Checked Float :=
  if x < 0.0 then Checked.fail (.valueError "RETRY_BASE_DELAY must be >= 0") else .ok x

/-- The settings of the given values, with every issue found in the order of the settings. -/
def check (fields : List (String × Json)) : Checked Settings :=
  let d : Settings := {}
  let r :=
    Checked.both (setting fields "ENDPOINT" Check.text d.endpoint) <|
    Checked.both (setting fields "HTTP_TIMEOUT" Check.float d.httpTimeout) <|
    Checked.both (setting fields "MAX_CONNECTIONS" Check.integer d.maxConnections) <|
    Checked.both
      (setting fields "MAX_KEEPALIVE_CONNECTIONS" Check.integer d.maxKeepaliveConnections) <|
    Checked.both (setting fields "RETRY_BASE_DELAY" (fun v => (Check.float v).bind checkBaseDelay)
      d.retryBaseDelay) <|
    Checked.both (setting fields "RETRY_JITTER" (fun v => (Check.float v).bind checkJitter)
      d.retryJitter) <|
    Checked.both (setting fields "RETRY_MAX_ELAPSED" (Checked.optional Check.float)
      d.retryMaxElapsed) <|
    Checked.both (setting fields "RETRY_MAX_ATTEMPTS" (Checked.optional Check.integer)
      d.retryMaxAttempts) <|
    Checked.both (setting fields "CONFIGURE_LOGGING" Check.flag d.configureLogging) <|
    Checked.both (setting fields "LOG_LEVEL" Check.text d.logLevel)
      (setting fields "ENVIRONMENT" Check.text d.environment)
  r.map fun (a, b, c, e, f, g, h, i, j, k, l) =>
    { endpoint := a, httpTimeout := b, maxConnections := c, maxKeepaliveConnections := e,
      retryBaseDelay := f, retryJitter := g, retryMaxElapsed := h, retryMaxAttempts := i,
      configureLogging := j, logLevel := k, environment := l }

/-- The document of the settings, every one by its name. -/
def toJson (s : Settings) : Json :=
  .obj [("ENDPOINT", .str s.endpoint), ("HTTP_TIMEOUT", .float s.httpTimeout),
        ("MAX_CONNECTIONS", .int s.maxConnections),
        ("MAX_KEEPALIVE_CONNECTIONS", .int s.maxKeepaliveConnections),
        ("RETRY_BASE_DELAY", .float s.retryBaseDelay), ("RETRY_JITTER", .float s.retryJitter),
        ("RETRY_MAX_ELAPSED", (s.retryMaxElapsed.map Json.float).getD .null),
        ("RETRY_MAX_ATTEMPTS", (s.retryMaxAttempts.map Json.int).getD .null),
        ("CONFIGURE_LOGGING", .bool s.configureLogging), ("LOG_LEVEL", .str s.logLevel),
        ("ENVIRONMENT", .str s.environment)]

end Settings

end StatementClient
