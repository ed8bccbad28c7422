import Mathlib.Data.Int.Notation

/-!
# JSON values as Python sees them

Request and webhook bodies reach the handlers as the values `json.loads` builds.
This file has the values, their truthiness, and the two ways a handler reads a
dictionary: `d.get(key, default)` on something known to be a dictionary, and the
same call on an arbitrary value, which raises when the value is no dictionary.
-/

namespace MandatePlane.JsonValue

/-- A decoded JSON value.  A non-integral number keeps its text and whether it is non-zero. -/
inductive Json where
  | null
  | bool (b : Bool)
  | int (n : ℤ)
  | float (text : String) (nonzero : Bool)
  | str (s : String)
  | arr (items : List Json)
  | obj (fields : List (String × Json))

/-- A Python `dict[str, Any]`, in insertion order. -/
abbrev Dict := List (String × Json)

/-- `d.get(key, default)` on a dictionary. -/
def dictGet (d : Dict) (key : String) (default : Json) : Json := (d.lookup key).getD default

namespace Json

/-- `bool(value)`. -/
def truthy : Json → Bool
  | null => false
  | bool b => b
  | int n => n != 0
  | float _ nonzero => nonzero
  | str s => !s.isEmpty
  | arr items => !items.isEmpty
  | obj fields => !fields.isEmpty

/-- `type(value).__name__`. -/
def typeName : Json → String
  | null => "NoneType"
  | bool _ => "bool"
  | int _ => "int"
  | float _ _ => "float"
  | str _ => "str"
  | arr _ => "list"
  | obj _ => "dict"

/-- `value.get(key, default)`; only dictionaries have the method, others raise `AttributeError`. -/
def get (value : Json) (key : String) (default : Json) : Except String Json :=
  match value with
  | obj fields => .ok (dictGet fields key default)
  | other => .error s!"'{other.typeName}' object has no attribute 'get'"

/-- `a or b`. -/
def orElse (a b : Json) : Json := if a.truthy then a else b

@[simp] theorem get_obj (fields : Dict) (key : String) (default : Json) :
    (obj fields).get key default = .ok (dictGet fields key default) := rfl

end Json

end MandatePlane.JsonValue
