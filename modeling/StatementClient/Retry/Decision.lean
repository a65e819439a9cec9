import StatementClient.Json.Number

/-!
# Retry decisions

After each attempt a policy decides: stop, for one of three reasons, or try again after a delay.
A delay is never negative (`Decision.retryAfter?` refuses one below zero).
-/

namespace StatementClient

/-- Why a policy stops: the time budget is spent, the attempt budget is spent, or the outcome
is final. -/
inductive StopReason where
  | deadline
  | maxAttempts
  | terminal
  deriving DecidableEq, Inhabited

/-- The word for a stop reason. -/
def StopReason.word : StopReason → String
  | .deadline => "deadline"
  | .maxAttempts => "max_attempts"
  | .terminal => "terminal"

/-- A policy's answer after an attempt. -/
inductive Decision where
  | stop (reason : StopReason)
  | retryAfter (delay : Json)
  deriving Inhabited

/-- Why a delay is refused. -/
inductive DelayFault where
  | negative
  | notNumber (f : NumberFault)
  deriving Inhabited

/-- The class name of a delay fault. -/
def DelayFault.className : DelayFault → String
  | .negative => "ValueError"
  | .notNumber f => f.className

/-- The message of a delay fault. -/
def DelayFault.message : DelayFault → String
  | .negative => "delay must be >= 0"
  | .notNumber f => f.message

/-- A decision to try again after `delay`, which must not be below zero. -/
def Decision.retryAfter? (delay : Json) : Except DelayFault Decision :=
  match Json.compareBy .lt delay (.int 0) with
  | .error f => .error (.notNumber f)
  | .ok true => .error .negative
  | .ok false => .ok (.retryAfter delay)

/-- The document form of a decision. -/
def Decision.toJson : Decision → Json
  | .stop r => .obj [("stop", .str r.word)]
  | .retryAfter d => .obj [("retry_after", d)]

end StatementClient
