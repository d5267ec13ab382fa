/-
# JSON values as Python and Go read them

The free-form part of a resource is a JSON value, and a program with a Python
half and a Go half reads it twice. Python takes it as dicts and lists and
tests values for truth (`bool(v)`, here `Json.truthy`). Go decodes it with
`encoding/json` into typed structs: a field that is absent or `null` keeps its
zero value, and a value of the wrong type makes the whole decoding fail
(`Json.decodeBool`, `Json.decodeString`, `Json.decodeObj`). Both take the last
of two members with one name (`JsonObj.get?`).

Arrays and objects are spelled out as inductive types of their own (`JsonArr`,
`JsonObj`), so that equality of values is decidable and lookups compute.

Key definitions: `Json`, `JsonObj.get?`, `Json.truthy`, `Json.decodeBool`,
`Json.decodeString`, `Json.decodeObj`.
-/
import Mathlib.Data.List.Basic

mutual

/-- A JSON value; numbers are kept as integers. -/
inductive Json where
  | null
  | bool (b : Bool)
  | num (n : Int)
  | str (s : List Char)
  | arr (xs : JsonArr)
  | obj (kvs : JsonObj)

/-- The elements of a JSON array. -/
inductive JsonArr where
  | nil
  | cons (v : Json) (rest : JsonArr)

/-- The members of a JSON object, in order. -/
inductive JsonObj where
  | nil
  | cons (k : List Char) (v : Json) (rest : JsonObj)

end

deriving instance DecidableEq for Json, JsonArr, JsonObj

namespace JsonObj

/-- The value of member `k`: Python's `d.get(k)`, and the member Go's decoder
reads for the field named `k`. Of two members named `k` the later wins. -/
def get? : JsonObj → List Char → Option Json
  | nil, _ => none
  | cons k v rest, k' =>
    match rest.get? k' with
    | some w => some w
    | none => if k = k' then some v else none

end JsonObj

namespace Json

/-- Member `k` of an object; no other value has members. -/
def get? : Json → List Char → Option Json
  | obj o, k => o.get? k
  | _, _ => none

/-- Python's `bool(v)`: `None`, `False`, zero and empty strings, lists and
dicts are false. -/
def truthy : Json → Bool
  | null => false
  | bool b => b
  | num n => n != 0
  | str s => !s.isEmpty
  | arr .nil => false
  | arr _ => true
  | obj .nil => false
  | obj _ => true

/-- An object with a member is true. -/
theorem truthy_obj_of_get? {o : JsonObj} {k : List Char} {v : Json} (h : o.get? k = some v) :
    (obj o).truthy = true := by
  cases o with
  | nil => simp [JsonObj.get?] at h
  | cons => rfl

theorem get?_eq_some_obj {j : Json} {k : List Char} {v : Json} (h : j.get? k = some v) :
    ∃ o, j = obj o ∧ o.get? k = some v := by
  cases j with
  | obj o => exact ⟨o, rfl, h⟩
  | _ => simp [get?] at h

/-! ### Go's `encoding/json` into typed fields

The argument is the member as `JsonObj.get?` finds it; `none` means absent,
and the result `none` is a decoding error. -/

/-- Decoding into a `bool` field. -/
def decodeBool : Option Json → Option Bool
  | none | some null => some false
  | some (bool b) => some b
  | some _ => none

/-- Decoding into a `string` field. -/
def decodeString : Option Json → Option (List Char)
  | none | some null => some []
  | some (str s) => some s
  | some _ => none

/-- Decoding into a struct field: the members its own fields are decoded from. -/
def decodeObj : Option Json → Option JsonObj
  | none | some null => some .nil
  | some (obj o) => some o
  | some _ => none

/-- The members a struct field is decoded from are the member's own. -/
theorem decodeObj_get? {j : Option Json} {o : JsonObj} (h : decodeObj j = some o) (k : List Char) :
    o.get? k = j.bind (·.get? k) := by
  match j, h with
  | none, h => cases h; rfl
  | some null, h => cases h; rfl
  | some (obj o'), h => cases h; rfl

@[simp] theorem decodeBool_none : decodeBool none = some false := rfl
@[simp] theorem decodeBool_bool (b : Bool) : decodeBool (some (bool b)) = some b := rfl

end Json
