import StatementClient.Wire.Table
import StatementClient.Text.Quoted

/-!
# Enumerations declared from names

An enumeration may be declared from a list of names alone: the name at position `i` (from zero)
gets the value `i + 1`, and the names are set one after another in the class body.

Setting a name (`Declaration.add`) sorts it into one of these, in this order:

* a private name of the class `E`, `_E__x` not ending in two underscores, is a plain attribute;
* a sunder name, `_x_`, is reserved, except for the few the enumeration machinery reads; of
  those, `_ignore_` must be iterable, which an integer is not;
* a dunder name, `__x__`, is a plain attribute (`__order__` is kept as `_order_`);
* any other name becomes a member, and a name that is already a member is refused with the value
  it first got.

Once all names are set, the class is made (`Declaration.finish`): `mro` and the empty name are
refused as members; then an integer `__slots__` is not iterable, an integer `__qualname__` is no
text and an integer `__classcell__` no cell; then, when there are members, an integer
`__new__`, `__init__`, `__getattr__` or `__setattr__` cannot be called to make them; last, an
integer `_order_` is not iterable.

`Declared.wireTable` puts wire names on the members: besides the refusals of
`WireTable.build`, members whose class sets `__hash__` or `__eq__` cannot be keyed.
-/

namespace StatementClient

/-- Whether a name is private to the class `cls`: `_cls__` and more, not ending in two
underscores. -/
def isPrivateName (cls name : String) : Bool :=
  let pattern := "_" ++ cls ++ "__"
  name.length > pattern.length && name.startsWith pattern && !name.endsWith "__"

/-- Whether a name is a sunder name: an underscore at each end of at least one other
character, and no second underscore next to either. -/
def isSunderName (name : String) : Bool :=
  let cs := name.toList
  cs.length > 2 && cs.head? = some '_' && cs.getLast? = some '_' &&
    cs[1]? ≠ some '_' && cs.reverse[1]? ≠ some '_'

/-- Whether a name is a dunder name: two underscores at each end of at least one other
character, and no third underscore next to either. -/
def isDunderName (name : String) : Bool :=
  let cs := name.toList
  cs.length > 4 && cs.take 2 = ['_', '_'] && cs.reverse.take 2 = ['_', '_'] &&
    cs[2]? ≠ some '_' && cs.reverse[2]? ≠ some '_'

/-- The sunder names the enumeration machinery reads. -/
def knownSunders : List String :=
  ["_order_", "_generate_next_value_", "_numeric_repr_", "_missing_", "_ignore_",
   "_iter_member_", "_iter_member_by_value_", "_iter_member_by_def_"]

/-- The names that cannot be members. -/
def invalidMemberNames : List String := ["", "mro"]

/-- Why names declare no enumeration. -/
inductive DeclError where
  /-- A sunder name the machinery does not read. -/
  | reservedSunder (name : String)
  /-- An integer where an iterable is read. -/
  | notIterable
  /-- A member name set twice; `value` is the value it first got. -/
  | alreadyDefined (name : String) (value : Nat)
  /-- Names that cannot be members, in the order they are reported. -/
  | invalidNames (names : List String)
  /-- An integer where the qualified name is read. -/
  | qualnameNotText
  /-- An integer where the class cell is read. -/
  | classcellNotCell
  /-- An integer where a function is called. -/
  | notCallable
  deriving Inhabited

/-- The class of a refused declaration. -/
def DeclError.className : DeclError → String
  | .reservedSunder _ => "ValueError"
  | .invalidNames _ => "ValueError"
  | _ => "TypeError"

/-- The message of a refused declaration. -/
def DeclError.message : DeclError → String
  | .reservedSunder n =>
    "_sunder_ names, such as " ++ Text.quoteLiteral n ++ ", are reserved for future Enum use"
  | .notIterable => "\x27int\x27 object is not iterable"
  | .alreadyDefined n v => Text.quoteLiteral n ++ " already defined as " ++ toString v
  | .invalidNames ns => "invalid enum member name(s) " ++ ",".intercalate (ns.map Text.quoteLiteral)
  | .qualnameNotText => "type __qualname__ must be a str, not int"
  | .classcellNotCell => "__classcell__ must be a nonlocal cell, not <class \x27int\x27>"
  | .notCallable => "\x27int\x27 object is not callable"

/-- A class body being filled: the members with their values, and the other attributes set. -/
structure Declaration where
  cls : String
  members : List (String × Nat)
  attributes : List String
  deriving Inhabited

/-- The class body after setting `name` to `value`. -/
def Declaration.add (d : Declaration) (name : String) (value : Nat) : Except DeclError Declaration :=
  if isPrivateName d.cls name then .ok d
  else if isSunderName name then
    if !knownSunders.contains name then .error (.reservedSunder name)
    else if name = "_ignore_" then .error .notIterable
    else .ok { d with attributes := d.attributes ++ [name] }
  else if isDunderName name then
    .ok { d with attributes := d.attributes ++ [if name = "__order__" then "_order_" else name] }
  else
    match d.members.lookup name with
    | some first => .error (.alreadyDefined name first)
    | none => .ok { d with members := d.members ++ [(name, value)] }

/-- An enumeration made from names: its name, members in definition order, and the other
attributes its class sets. -/
structure Declared where
  name : String
  members : List String
  attributes : List String
  deriving Inhabited

/-- The class made from a filled body. -/
def Declaration.finish (d : Declaration) : Except DeclError Declared :=
  let names := d.members.map Prod.fst
  let invalid := invalidMemberNames.filter names.contains
  let has := fun a => d.attributes.contains a
  if !invalid.isEmpty then .error (.invalidNames invalid)
  else if has "__slots__" then .error .notIterable
  else if has "__qualname__" then .error .qualnameNotText
  else if has "__classcell__" then .error .classcellNotCell
  else if !names.isEmpty && ["__new__", "__init__", "__getattr__", "__setattr__"].any has then
    .error .notCallable
  else if has "_order_" then .error .notIterable
  else .ok ⟨d.cls, names, d.attributes⟩

/-- The enumeration `cls` declared from names, valued from one. -/
def declare (cls : String) (names : List String) : Except DeclError Declared := do
  let body ← (names.zip (List.range names.length)).foldlM
    (fun d (n, i) => d.add n (i + 1)) ({ cls, members := [], attributes := [] } : Declaration)
  body.finish

/-- The wire table of a declared enumeration under overrides. -/
def Declared.wireTable (d : Declared) (overrides : List (String × Json)) :
    Except WireError WireTable :=
  let unknown := unknownOverrides d.members overrides
  if !unknown.isEmpty then .error (.unknownMembers unknown)
  else if d.members.isEmpty then WireTable.build d.members overrides
  else if d.attributes.contains "__hash__" then .error .hashNotCallable
  else if d.attributes.contains "__eq__" then .error (.unhashable d.name)
  else WireTable.build d.members overrides

example : isPrivateName "E" "_E__p" = true ∧ isPrivateName "E" "_E__a__" = false ∧
    isSunderName "_s_" = true ∧ isSunderName "__s__" = false ∧ isDunderName "__x__" = true ∧
    isDunderName "___x__" = false := by
  cbv

end StatementClient
