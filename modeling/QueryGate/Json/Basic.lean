import QueryGate.Keyed

/-!
# JSON values

Values as a request carries them. An integer literal within the signed or
unsigned 64-bit words is an integer; every other number is a double. The
fields of an object are sorted by key and each key occurs once, as the reader
leaves them.
-/

set_option autoImplicit false

namespace QueryGate

/-- A JSON value. -/
inductive Json where
  | null
  | bool (value : Bool)
  | int (value : Int)
  | float (value : Float)
  | text (value : String)
  | array (items : List Json)
  | object (fields : List (String × Json))
deriving Inhabited

namespace Json

/-- Whether the value is `null`. -/
def isNull : Json → Bool
  | null => true
  | _ => false

/-- Whether the value is an array or an object. -/
def isContainer : Json → Bool
  | array _ => true
  | object _ => true
  | _ => false

/-- The field under a key, when the value is an object that has it. -/
def field? (key : String) : Json → Option Json
  | object fields => fields.lookup key
  | _ => none

/-- The field under a key, where `null` counts as absent. -/
def present? (key : String) (fields : List (String × Json)) : Option Json :=
  (fields.lookup key).filter fun value => !value.isNull

/-- A field that is present is in the object and not `null`. -/
theorem present?_eq_some_iff (key : String) (fields : List (String × Json)) (value : Json) :
    present? key fields = some value ↔ fields.lookup key = some value ∧ value.isNull = false := by
  simp [present?, Option.filter_eq_some_iff]

/-- What holds of single values, and of a container once it holds of what is in it,
holds of every value. -/
theorem members_induction {motive : Json → Prop}
    (single : ∀ json, json.isContainer = false → motive json)
    (array : ∀ items, (∀ item ∈ items, motive item) → motive (.array items))
    (object : ∀ fields : List (String × Json), (∀ entry ∈ fields, motive entry.2) →
      motive (.object fields)) :
    ∀ json, motive json
  | null => single _ rfl
  | bool _ => single _ rfl
  | int _ => single _ rfl
  | float _ => single _ rfl
  | text _ => single _ rfl
  | .array items => array items fun item _ => members_induction single array object item
  | .object fields => object fields fun entry _ => members_induction single array object entry.2
termination_by json => sizeOf json
decreasing_by
  · have smaller := List.sizeOf_lt_of_mem ‹item ∈ items›
    simp only [Json.array.sizeOf_spec]
    omega
  · obtain ⟨key, value⟩ := entry
    have smaller := List.sizeOf_lt_of_mem ‹(key, value) ∈ fields›
    simp only [Prod.mk.sizeOf_spec, Json.object.sizeOf_spec] at *
    omega

end Json

end QueryGate
