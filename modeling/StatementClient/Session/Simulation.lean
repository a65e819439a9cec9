import StatementClient.Session.Client

/-!
# A simulated service

A `Simulation` stands in for the service, the clock and the random source, so that a client's
calls can be played out exactly.

* An attempt is logged, takes `perAttempt` seconds of the clock, and answers the next scripted
  outcome. The last outcome answers forever when `repeatLast` is set; with no outcome left the
  attempt raises `ScriptExhausted`.
* A wait is logged and moves the clock on by its delay.
* Random numbers come from `Draws`.

`Simulation.session` plays a list of calls one after another. The script, the clock and the
random source carry over from call to call; requests, waits and counts are reported per call.
All calls share one budget of attempts; a session that spends it gives no report.
-/

namespace StatementClient

/-- The state of a simulated service. -/
structure Simulation where
  script : List Outcome
  repeatLast : Bool
  clock : Number
  perAttempt : Number
  draws : Draws
  /-- The requests of the current call, in order. -/
  sent : List Request := []
  /-- The waits of the current call, in order. -/
  slept : List Number := []
  /-- Whether the transport was released. -/
  closed : Bool := false
  deriving Inhabited

namespace Simulation

/-- One attempt: logged, timed, and answered from the script. -/
def attempt (w : Simulation) (r : Request) : Simulation × Except Fault Outcome :=
  let w := { w with sent := w.sent ++ [r] }
  match w.clock.add w.perAttempt with
  | .error f => (w, .error (Fault.ofNumber f))
  | .ok clock =>
    let w := { w with clock }
    match w.script with
    | [] => (w, .error ⟨"ScriptExhausted", "unexpected attempt: " ++ r.method.name ++ " " ++ r.path⟩)
    | [o] => (if w.repeatLast then w else { w with script := [] }, .ok o)
    | o :: rest => ({ w with script := rest }, .ok o)

/-- A wait of `d` seconds: logged, then the clock moved on. -/
def sleep (w : Simulation) (d : Number) : Simulation × Except Fault Unit :=
  let w := { w with slept := w.slept ++ [d] }
  match w.clock.add d with
  | .error f => (w, .error (Fault.ofNumber f))
  | .ok clock => ({ w with clock }, .ok ())

/-- The simulation as the world of a client. -/
def port : Port Simulation where
  attempt := attempt
  now w := w.clock
  sleep := sleep
  draw w := let (u, d) := w.draws.next; (u, { w with draws := d })
  close w := { w with closed := true }

end Simulation

/-- What one call did: its answer, its requests and waits, the clock after it, its counts, and
whether the transport is released. -/
structure CallReport where
  reply : Except CallFailure Reply
  requests : List Request
  sleeps : List Number
  clock : Number
  metrics : Metrics
  closed : Bool
  deriving Inhabited

/-- What a session did: a report per call, and, when the calls ran inside the client's scope,
whether the transport was released on leaving it. -/
structure SessionReport where
  calls : List CallReport
  closedOnExit : Option Bool
  deriving Inhabited

namespace Simulation

/-- The reports of the calls, each starting with empty logs and counts; `none` when the attempt
budget runs out. -/
def playCalls (c : Client) : List Call → Nat → Simulation → Option (List CallReport × Simulation)
  | [], _, w => some ([], w)
  | call :: rest, fuel, w =>
    let r := c.call port fuel { w with sent := [], slept := [] } {} call
    match r.result with
    | .error (.run .spent) => none
    | reply =>
      let w := r.state
      let report : CallReport :=
        ⟨reply, w.sent, w.slept, w.clock, r.metrics, w.closed⟩
      (playCalls c rest r.fuel w).map fun (reports, w) => (report :: reports, w)

/-- Plays a session of calls; inside the client's scope when `inScope` is set, leaving it
releases the transport the client owns. -/
def session (c : Client) (inScope : Bool) (calls : List Call) (fuel : Nat) (w : Simulation) :
    Option SessionReport :=
  (playCalls c calls fuel w).map fun (reports, w) =>
    ⟨reports, if inScope then some (c.close port w).closed else none⟩

end Simulation

end StatementClient
