import StatementClient.Json.Value

/-!
# Validation issues

Validating a value against a model yields issues. Each names its kind (`IssueKind`), where it
sits (`loc`: field names and item indexes from the top) and, for a rule of the model's own, that
rule's message. Issues come in field order.
-/

namespace StatementClient

/-- One step of a location: a field name or an item index. -/
inductive LocStep where
  | field (name : String)
  | index (i : Nat)
  deriving Inhabited

/-- The kinds of validation issue. -/
inductive IssueKind where
  | missing
  | stringType
  | stringTooShort
  | stringUnicode
  | intType
  | intParsing
  | intParsingSize
  | intFromFloat
  | finiteNumber
  | floatType
  | floatParsing
  | boolType
  | boolParsing
  | greaterThanEqual
  | lessThanEqual
  | listType
  | modelType
  | jsonInvalid
  | valueError (message : String)
  deriving Inhabited

/-- The name of an issue kind. -/
def IssueKind.name : IssueKind → String
  | .missing => "missing"
  | .stringType => "string_type"
  | .stringTooShort => "string_too_short"
  | .stringUnicode => "string_unicode"
  | .intType => "int_type"
  | .intParsing => "int_parsing"
  | .intParsingSize => "int_parsing_size"
  | .intFromFloat => "int_from_float"
  | .finiteNumber => "finite_number"
  | .floatType => "float_type"
  | .floatParsing => "float_parsing"
  | .boolType => "bool_type"
  | .boolParsing => "bool_parsing"
  | .greaterThanEqual => "greater_than_equal"
  | .lessThanEqual => "less_than_equal"
  | .listType => "list_type"
  | .modelType => "model_type"
  | .jsonInvalid => "json_invalid"
  | .valueError _ => "value_error"

/-- One validation issue. -/
structure Issue where
  kind : IssueKind
  loc : List LocStep
  deriving Inhabited

/-- An issue at the top of the value. -/
def Issue.here (kind : IssueKind) : Issue := ⟨kind, []⟩

/-- The issue moved under a field or an item. -/
def Issue.under (step : LocStep) (i : Issue) : Issue := ⟨i.kind, step :: i.loc⟩

/-- The document form of an issue: its kind, its location and, for a rule of the model, the
rule's message. -/
def Issue.toJson (i : Issue) : Json :=
  let loc := Json.arr (i.loc.map fun
    | .field n => .str n
    | .index k => .int k)
  match i.kind with
  | .valueError m =>
    .obj [("type", .str i.kind.name), ("loc", loc), ("msg", .str ("Value error, " ++ m))]
  | k => .obj [("type", .str k.name), ("loc", loc)]

end StatementClient
