import QueryGate.Failure
import QueryGate.Json.Reader

/-!
# Requests in query strings

A list request can come as the parameters of a query string. The structured
clauses are JSON texts then, and decoding them gives the body that the same
request would have as JSON.
-/

set_option autoImplicit false

namespace QueryGate.Request

/-- The parameters of a list request. -/
structure ListParameters where
  scopes : Option String := none
  filters : Option String := none
  search : Option String := none
  sort : Option String := none
  withTrashed : Option String := none
  onlyTrashed : Option String := none
  limit : Option Int64 := none
  page : Option Int64 := none
deriving DecidableEq, Repr

namespace ListParameters

/-- A text, or `null` for none. -/
def optionalText? : Json → Option (Option String)
  | .null => some none
  | .text value => some (some value)
  | _ => none

/-- A signed 64-bit integer, or `null` for none. -/
def optionalInt64? : Json → Option (Option Int64)
  | .null => some none
  | .int value => (Number.int64? value).map some
  | _ => none

/-- The value under a key, none where there is no such key. -/
def parameter {α : Type} (read : Json → Option (Option α)) (key : String)
    (fields : List (String × Json)) : Option (Option α) :=
  match fields.lookup key with
  | none => some none
  | some value => read value

/-- The parameters that the fields of an object spell. -/
def ofFields? (fields : List (String × Json)) : Option ListParameters := do
  let scopes ← parameter optionalText? "scopes" fields
  let filters ← parameter optionalText? "filters" fields
  let search ← parameter optionalText? "search" fields
  let sort ← parameter optionalText? "sort" fields
  let withTrashed ← parameter optionalText? "with_trashed" fields
  let onlyTrashed ← parameter optionalText? "only_trashed" fields
  let limit ← parameter optionalInt64? "limit" fields
  let page ← parameter optionalInt64? "page" fields
  return { scopes, filters, search, sort, withTrashed, onlyTrashed, limit, page }

/-- The keys of the parameters, in their order. -/
def keys : List String :=
  ["scopes", "filters", "search", "sort", "with_trashed", "only_trashed", "limit", "page"]

/-- The parameters that a JSON value spells: an object with some of the keys, or
an array of all of them in order. -/
def ofJson? : Json → Option ListParameters
  | .object fields => ofFields? fields
  | .array items => if items.length = keys.length then ofFields? (keys.zip items) else none
  | _ => none

/-- A clause given as a JSON text. -/
def clause (key : String) : Option String → Validated (Option Json)
  | none => .valid none
  | some text => (Validated.ofOption (Json.read? text) [.key key] (.notJson key)).map some

/-- The fields with a value under a key, when there is one. -/
def insert? (key : String) (value : Option Json) (fields : List (String × Json)) :
    List (String × Json) :=
  match value with
  | none => fields
  | some value => Keyed.insert key value fields

theorem lookup_insert?_self (key : String) (value : Option Json) (fields : List (String × Json)) :
    (insert? key value fields).lookup key = value.or (fields.lookup key) := by
  cases value with
  | none => rfl
  | some value => exact Keyed.lookup_insert_self key value fields

theorem lookup_insert?_of_ne {key other : String} (different : other ≠ key) (value : Option Json)
    (fields : List (String × Json)) :
    (insert? key value fields).lookup other = fields.lookup other := by
  cases value with
  | none => rfl
  | some value => exact Keyed.lookup_insert_of_ne key other different value fields

/-- Fields that agree on a key still do with the same value under some key. -/
theorem lookup_insert?_congr {key other : String} (value : Option Json)
    {fields others : List (String × Json)} (same : fields.lookup other = others.lookup other) :
    (insert? key value fields).lookup other = (insert? key value others).lookup other := by
  cases value with
  | none => exact same
  | some value =>
      simp only [insert?]
      by_cases here : other = key
      · rw [here, Keyed.lookup_insert_self, Keyed.lookup_insert_self]
      · rw [Keyed.lookup_insert_of_ne _ _ here, Keyed.lookup_insert_of_ne _ _ here, same]

/-- The request body with the same clauses. -/
def toRequest (parameters : ListParameters) : Except Failure Json :=
  let checked :=
    (clause "scopes" parameters.scopes).both
      ((clause "filters" parameters.filters).both
        ((clause "search" parameters.search).both (clause "sort" parameters.sort)))
  match checked with
  | .invalid first others => .error (.invalid (first :: others))
  | .valid (scopes, filters, search, sort) =>
      .ok (.object
        (insert? "scopes" scopes (insert? "filters" filters (insert? "search" search
          (insert? "sort" sort
            (insert? "with_trashed" (parameters.withTrashed.map Json.text)
              (insert? "only_trashed" (parameters.onlyTrashed.map Json.text)
                (insert? "limit" (parameters.limit.map fun value => .int value.toInt)
                  (insert? "page" (parameters.page.map fun value => .int value.toInt) [])))))))))

end ListParameters

end QueryGate.Request
