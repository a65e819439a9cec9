import StatementClient.Wire.Table

/-!
# The enumerations of the service

Statement statuses (queued, running, finished, failed), result formats (json, arrow) and ingest
formats (json). Each has a member name, the upper-case word, and a wire name, the lower-case
word; `WireEnum` gathers both with the list of members so that one reader serves all three.
A status is finished only when it is `finished`, and terminal when it is `finished` or `failed`.
-/

namespace StatementClient

/-- An enumeration whose members travel under wire names. -/
class WireEnum (α : Type) where
  /-- The name of the enumeration in messages. -/
  enumName : String
  /-- All members, in definition order. -/
  members : List α
  /-- The member's own name. -/
  memberName : α → String
  /-- The name the member travels under. -/
  wireName : α → String

namespace WireEnum

variable {α : Type} [WireEnum α]

/-- The wire table of the enumeration. -/
def table (α : Type) [WireEnum α] : WireTable :=
  ⟨(members : List α).map (fun m => (memberName m, .str (wireName m)))⟩

/-- The member with a wire name. -/
def ofWire? (s : String) : Option α :=
  (members : List α).find? (fun m => wireName m = s)

/-- The member with a member name. -/
def ofMemberName? (s : String) : Option α :=
  (members : List α).find? (fun m => memberName m = s)

/-- Reads a member from any value, as `WireTable.parse` does. -/
def parse (v : Json) : Except ParseFault α :=
  match v with
  | .arr _ => .error (.unhashable "list")
  | .obj _ => .error (.unhashable "dict")
  | .str s =>
    match (ofWire? s : Option α) with
    | some m => .ok m
    | none => .error (.notValid v.literal)
  | _ => .error (.notValid v.literal)

end WireEnum

/-- The life of a submitted statement. -/
inductive StatementStatus where
  | queued
  | running
  | finished
  | failed
  deriving DecidableEq, Inhabited

instance : WireEnum StatementStatus where
  enumName := "StatementStatus"
  members := [.queued, .running, .finished, .failed]
  memberName
    | .queued => "QUEUED" | .running => "RUNNING" | .finished => "FINISHED" | .failed => "FAILED"
  wireName
    | .queued => "queued" | .running => "running" | .finished => "finished" | .failed => "failed"

/-- Only a finished statement has its result. -/
def StatementStatus.isFinished : StatementStatus → Bool
  | .finished => true
  | _ => false

/-- A finished or failed statement changes no more. -/
def StatementStatus.isTerminal : StatementStatus → Bool
  | .finished | .failed => true
  | _ => false

/-- The encoding of result rows. -/
inductive ResultFormat where
  | json
  | arrow
  deriving DecidableEq, Inhabited

instance : WireEnum ResultFormat where
  enumName := "ResultFormat"
  members := [.json, .arrow]
  memberName | .json => "JSON" | .arrow => "ARROW"
  wireName | .json => "json" | .arrow => "arrow"

/-- The encoding of ingested rows. -/
inductive IngestFormat where
  | json
  deriving DecidableEq, Inhabited

instance : WireEnum IngestFormat where
  enumName := "IngestFormat"
  members := [.json]
  memberName | .json => "JSON"
  wireName | .json => "json"

end StatementClient
