import QueryGate.Request.Clauses
import QueryGate.Request.Depth
import QueryGate.Request.Filters

/-!
# Request bodies

The reading of a whole request body. A body is an object, or `null` for the
empty request. The nesting of its filters is measured first; then all clauses
are checked, and the query is built only when no rule is broken anywhere. Keys
other than those of the clauses are left to others.
-/

set_option autoImplicit false

namespace QueryGate.Request

/-- A clause of a request, with a value of its own where it is absent. -/
def clause {α : Type} (key : String) (fields : List (String × Json)) (absent : α)
    (read : Json → Validated α) : Validated α :=
  match Json.present? key fields with
  | none => .valid absent
  | some value => read value

/-- All clauses of a request, side by side. -/
def clauses (whitelist : Whitelist) (config : Config) (fields : List (String × Json)) :
    Validated Query :=
  ((clause "scopes" fields [] (scopes whitelist)).both
    ((clause "filters" fields [] (filterList whitelist [.key "filters"])).both
      ((clause "search" fields none (search config)).both
        ((clause "sort" fields [] (sorting whitelist)).both (trashed fields))))).map
    fun (scopes, filters, search, sorting, trashed) =>
      { scopes, filters, search, sorting, trashed }

/-- Refuses a request whose filters are nested too deeply. -/
def guardDepth (config : Config) (fields : List (String × Json)) : Except Failure Unit :=
  match Json.present? "filters" fields with
  | none => .ok ()
  | some filters => checkFilterDepth filters config.maxNestedDepth

/-- The value of a checked part, or the failure that reports its violations. -/
def accept {α : Type} : Validated α → Except Failure α
  | .valid value => .ok value
  | .invalid first others => .error (.invalid (first :: others))

/-- The query that a request body asks for. -/
def parse (whitelist : Whitelist) (config : Config) : Json → Except Failure Query
  | .null => .ok {}
  | .object fields => do
      guardDepth config fields
      accept (clauses whitelist config fields)
  | _ => .error (.unreadable "Request body must be a JSON object")

end QueryGate.Request
