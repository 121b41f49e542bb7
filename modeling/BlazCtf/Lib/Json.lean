import Mathlib.Logic.Basic

set_option autoImplicit false

/-- A parsed JSON value. Numbers keep their literal, and an object holds each of
its keys once. -/
inductive Json where
  | null
  | bool (value : Bool)
  | number (literal : String)
  | string (text : String)
  | array (items : List Json)
  | object (entries : List (String × Json))

namespace Json

/-- The value under a key of an object, if there is one. -/
def get? : Json → String → Option Json
  | .object entries, key => entries.lookup key
  | _, _ => none

/-- No array is one of its own items. -/
theorem ne_array_of_mem {item : Json} {items : List Json} (member : item ∈ items) :
    item ≠ .array items := by
  intro same
  have smaller := List.sizeOf_lt_of_mem member
  rw [same, array.sizeOf_spec] at smaller
  omega

end Json
