import StatementClient.Json.Value
import StatementClient.Decimal.Text
import StatementClient.Text.Quoted

/-!
# Literal text of a document

Messages show values as literals: `None`, `True` and `False`, integers in decimal, floats in the
standard style, strings by `quoteLiteral`, arrays as `[a, b]` and objects as `{'k': v}`, with a
comma and a space between items and a colon and a space after a key. `Json.typeName` is the word
a message uses for the kind of a value.
-/

namespace StatementClient

namespace Json

mutual

/-- The literal text of a value. -/
def literal : Json → String
  | .null => "None"
  | .bool b => if b then "True" else "False"
  | .int n => toString n
  | .float x => Decimal.FloatStyle.standard.write x
  | .str s => Text.quoteLiteral s
  | .arr items => "[" ++ literalItems items ++ "]"
  | .obj fields => "\x7b" ++ literalFields fields ++ "\x7d"

/-- Items separated by a comma and a space. -/
def literalItems : List Json → String
  | [] => ""
  | [j] => literal j
  | j :: rest => literal j ++ ", " ++ literalItems rest

/-- Members separated by a comma and a space. -/
def literalFields : List (String × Json) → String
  | [] => ""
  | [(k, v)] => Text.quoteLiteral k ++ ": " ++ literal v
  | (k, v) :: rest => Text.quoteLiteral k ++ ": " ++ literal v ++ ", " ++ literalFields rest

end

/-- The text of a value in a message: a string as itself, anything else as its literal. -/
def display : Json → String
  | .str s => s
  | j => j.literal

/-- The word for the kind of a value. -/
def typeName : Json → String
  | .null => "NoneType"
  | .bool _ => "bool"
  | .int _ => "int"
  | .float _ => "float"
  | .str _ => "str"
  | .arr _ => "list"
  | .obj _ => "dict"

end Json

end StatementClient
