/-!
# Documents

A document is a tree of null, truth values, integers, floats, strings, arrays and objects.
Integers and floats stay apart: a reader keeps `1` and `1.0` apart, and so does every printer
of this library. An object keeps its members in insertion order. `Json.setField` replaces the
value of a member that is already present and keeps its place, so that among repeated keys the
last value wins while the first position stays.
-/

namespace StatementClient

/-- A document: the values a reader produces and a printer writes. -/
inductive Json where
  | null
  | bool (b : Bool)
  | int (n : Int)
  | float (x : Float)
  | str (s : String)
  | arr (items : List Json)
  | obj (fields : List (String × Json))
  deriving Inhabited

namespace Json

/-- Sets member `k` of a member list: in place when `k` is present, at the end otherwise. -/
def setField : List (String × Json) → String → Json → List (String × Json)
  | [], k, v => [(k, v)]
  | (k', v') :: rest, k, v =>
    if k' = k then (k, v) :: rest else (k', v') :: setField rest k v

/-- The value of member `k` of a member list, the first one if several carry that key. -/
def lookup : List (String × Json) → String → Option Json
  | [], _ => none
  | (k', v) :: rest, k => if k' = k then some v else lookup rest k

/-- The value of member `k`, when the document is an object that has it. -/
def field? (j : Json) (k : String) : Option Json :=
  match j with
  | .obj fields => lookup fields k
  | _ => none

/-- Whether member `k` is present, for an object. -/
def hasField (j : Json) (k : String) : Bool :=
  (j.field? k).isSome

/-- Members built from pairs in order, later pairs overriding earlier ones in place. -/
def ofPairs (pairs : List (String × Json)) : List (String × Json) :=
  pairs.foldl (fun acc p => setField acc p.1 p.2) []

theorem lookup_setField_self (fields : List (String × Json)) (k : String) (v : Json) :
    lookup (setField fields k v) k = some v := by
  induction fields with
  | nil => simp [setField, lookup]
  | cons p rest ih =>
    obtain ⟨k', v'⟩ := p
    by_cases h : k' = k
    · simp [setField, lookup, h]
    · simp [setField, lookup, h, ih]

theorem lookup_setField_ne (fields : List (String × Json)) {k k₁ : String} (v : Json)
    (h : k₁ ≠ k) : lookup (setField fields k v) k₁ = lookup fields k₁ := by
  induction fields with
  | nil => simp [setField, lookup, Ne.symm h]
  | cons p rest ih =>
    obtain ⟨k', v'⟩ := p
    by_cases hk : k' = k
    · subst hk
      simp [setField, lookup, Ne.symm h]
    · by_cases hk₁ : k' = k₁
      · subst hk₁
        simp [setField, lookup, hk]
      · simp [setField, lookup, hk, hk₁, ih]

end Json

end StatementClient
