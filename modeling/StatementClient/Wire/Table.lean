import StatementClient.Json.Number

/-!
# Wire names

An enumeration travels under wire names: each member has one, its own name unless an override
gives another. An override may be any value; wire names are compared as dictionary keys are
(`Json.sameKey`): numbers and truth values by exact value, so `1`, `1.0` and `true` are one key,
text by its characters, and arrays and objects are no keys at all.

`WireTable.build` makes the table from the member names (in definition order) and the
overrides. A wire name that is no key is refused first (the first in member order), then a table
in which two members share a wire name.

Reading a wire name back (`WireTable.parse`) looks the value up among the wire names of the
table. An array or an object cannot be looked up; any other value that is no wire name is not a
valid member.
-/

namespace StatementClient

namespace Json

/-- Whether a value can be a dictionary key: arrays and objects cannot. -/
def isKey : Json → Bool
  | .arr _ => false
  | .obj _ => false
  | _ => true

/-- Whether two values are one dictionary key: numbers and truth values by exact value (a NaN is
no other value), text by its characters, null by itself. -/
def sameKey (a b : Json) : Bool :=
  match a, b with
  | .str x, .str y => x == y
  | .null, .null => true
  | _, _ =>
    match a.number?, b.number? with
    | some x, some y => Number.compare? x y == some .eq
    | _, _ => false

end Json

/-- Member names with their wire names, in definition order. -/
structure WireTable where
  entries : List (String × Json)
  deriving Inhabited

/-- Why overrides make no table. -/
inductive WireError where
  /-- Overrides name members that do not exist. -/
  | unknownMembers (names : List String)
  /-- Two members share a wire name. -/
  | duplicateWireNames
  /-- A wire name, or a member, of kind `typeName` cannot be a dictionary key. -/
  | unhashable (typeName : String)
  /-- A member's hash is no function. -/
  | hashNotCallable
  deriving Inhabited

/-- The class of a refused table. -/
def WireError.className : WireError → String
  | .unhashable _ => "TypeError"
  | .hashNotCallable => "TypeError"
  | _ => "ValueError"

/-- The message of a refused table of the enumeration `enumName`. -/
def WireError.message (enumName : String) : WireError → String
  | .unknownMembers names =>
    enumName ++ " has no members named " ++ Json.literal (.arr (names.map Json.str))
  | .duplicateWireNames => enumName ++ " has duplicate wire names"
  | .unhashable t => "unhashable type: \x27" ++ t ++ "\x27"
  | .hashNotCallable => "\x27int\x27 object is not callable"

/-- Strings in code-point order. -/
def sortStrings (xs : List String) : List String :=
  xs.mergeSort (fun a b => decide (a ≤ b))

/-- Whether no two values of a list are one dictionary key. -/
def distinctKeys : List Json → Bool
  | [] => true
  | x :: rest => !rest.any (Json.sameKey x) && distinctKeys rest

/-- The overrides that name no member, in code-point order. -/
def unknownOverrides (members : List String) (overrides : List (String × Json)) : List String :=
  sortStrings ((overrides.map Prod.fst).filter (fun k => !members.contains k))

/-- The table of members under overrides: an override names a member, every wire name is a key,
and wire names are distinct. -/
def WireTable.build (members : List String) (overrides : List (String × Json)) :
    Except WireError WireTable :=
  let unknown := unknownOverrides members overrides
  if !unknown.isEmpty then .error (.unknownMembers unknown)
  else
    let entries := members.map (fun m => (m, (overrides.lookup m).getD (.str m)))
    match entries.find? (fun e => !e.2.isKey) with
    | some (_, w) => .error (.unhashable w.typeName)
    | none =>
      if distinctKeys (entries.map Prod.snd) then .ok ⟨entries⟩ else .error .duplicateWireNames

/-- The table of an enumeration without overrides: every member travels under its name. -/
def WireTable.plain (members : List String) : WireTable :=
  ⟨members.map (fun m => (m, .str m))⟩

/-- The wire name of a member. -/
def WireTable.toWire? (t : WireTable) (member : String) : Option Json :=
  t.entries.lookup member

/-- The member with a wire name. -/
def WireTable.fromWire? (t : WireTable) (wire : Json) : Option String :=
  (t.entries.find? (fun e => Json.sameKey e.2 wire)).map Prod.fst

/-- Why a value names no member. -/
inductive ParseFault where
  /-- An array or an object: it cannot be looked up. -/
  | unhashable (typeName : String)
  /-- Any other value that is not a wire name; `literal` is its literal text. -/
  | notValid (literal : String)
  deriving Inhabited

/-- The message of a fault in reading a member of the enumeration `enumName`. -/
def ParseFault.message (enumName : String) : ParseFault → String
  | .unhashable t => "unhashable type: '" ++ t ++ "'"
  | .notValid lit => lit ++ " is not a valid " ++ enumName

/-- Whether a fault is one of lookup (a type fault) rather than of value. -/
def ParseFault.isTypeFault : ParseFault → Bool
  | .unhashable _ => true
  | .notValid _ => false

/-- Reads a member from any value: one that is a wire name of the table. -/
def WireTable.parse (t : WireTable) (v : Json) : Except ParseFault String :=
  if !v.isKey then .error (.unhashable v.typeName)
  else
    match t.fromWire? v with
    | some m => .ok m
    | none => .error (.notValid v.literal)

end StatementClient
