import QueryGate.Config
import QueryGate.Query.Basic
import QueryGate.Request.Field
import QueryGate.Request.Flag
import QueryGate.Whitelist

/-!
# The other clauses of a request

The reading of the scopes, the orders, the search and the two flags of a
request. The parts of an entry are checked side by side, as are the entries of
a list, so every broken rule is reported.
-/

set_option autoImplicit false

namespace QueryGate.Request

/-- A text under a key of an entry. -/
def requiredText (place : Place) (key : String) (fields : List (String × Json)) :
    Validated String :=
  match Json.present? key fields with
  | none => .reject (place ++ [.key key]) (.missing key)
  | some (.text value) => .valid value
  | some _ => .reject (place ++ [.key key]) (.notText key)

/-- The name of a scope, which has to be exposed. -/
def scopeName (whitelist : Whitelist) (place : Place) (fields : List (String × Json)) :
    Validated String :=
  (requiredText place "name" fields).andThen fun name =>
    if whitelist.exposesScope name then .valid name
    else .reject (place ++ [.key "name"]) (.notExposed name)

/-- The parameters of a scope, none where they are absent. -/
def scopeParameters (place : Place) (fields : List (String × Json)) : Validated (List Json) :=
  match Json.present? "parameters" fields with
  | none => .valid []
  | some (.array parameters) => .valid parameters
  | some _ => .reject (place ++ [.key "parameters"]) (.notArray "parameters")

/-- A list of entries, each read at its place. -/
def entries {α : Type} (key entryName : String)
    (read : Place → List (String × Json) → Validated α) (clause : Json) : Validated (List α) :=
  match clause with
  | .array items =>
      Validated.all (items.mapIdx fun position item =>
        let place : Place := [.key key, .index position]
        match item with
        | .object fields => read place fields
        | _ => .reject place (.notObject entryName))
  | _ => .reject [.key key] (.notArray key)

/-- The scopes of a request. -/
def scopes (whitelist : Whitelist) : Json → Validated (List ScopeCall) :=
  entries "scopes" "scope" fun place fields =>
    ((scopeName whitelist place fields).both (scopeParameters place fields)).map fun parts =>
      ⟨parts.1, parts.2⟩

/-- The field of an order, which the whitelist has to admit. -/
def sortField (whitelist : Whitelist) (place : Place) (fields : List (String × Json)) :
    Validated String :=
  (fieldName place (.missing "field") fields).andThen fun name =>
    if whitelist.canSort name then .valid name
    else .reject (place ++ [.key "field"]) (.notSortable name)

/-- The direction of an order, ascending where none is given. -/
def sortDirection (place : Place) (fields : List (String × Json)) : Validated Sql.Direction :=
  let refused :=
    Validated.reject (place ++ [.key "direction"]) (.unknownWord "direction" ["asc", "desc"])
  match Json.present? "direction" fields with
  | none => .valid .ascending
  | some (.text word) =>
      match Sql.Direction.ofText? word with
      | some direction => .valid direction
      | none => refused
  | some _ => refused

/-- The orders of a request. -/
def sorting (whitelist : Whitelist) : Json → Validated (List SortKey) :=
  entries "sort" "sort" fun place fields =>
    ((sortField whitelist place fields).both (sortDirection place fields)).map fun parts =>
      ⟨parts.1, parts.2⟩

/-- Whether case counts in a search, as configured where the request does not
say. -/
def searchCase (config : Config) (fields : List (String × Json)) : Validated Bool :=
  match Json.present? "case_sensitive" fields with
  | none => .valid config.caseSensitiveSearch
  | some value =>
      .ofOption (flag? value) [.key "search", .key "case_sensitive"]
        (.notFlag "case sensitive flag")

/-- The term of a search, when one is given. -/
def searchValue? (fields : List (String × Json)) : Validated (Option String) :=
  match Json.present? "value" fields with
  | none => .valid none
  | some (.text value) => .valid (some value)
  | some _ => .reject [.key "search", .key "value"] (.notText "value")

/-- The search of a request. An empty term searches for nothing. -/
def search (config : Config) : Json → Validated (Option SearchTerm)
  | .object fields =>
      ((searchCase config fields).both (searchValue? fields)).map fun parts =>
        match parts.2 with
        | some value => if value = "" then none else some ⟨value, parts.1⟩
        | none => none
  | _ => .reject [.key "search"] (.notObject "search")

/-- A flag of a request, off where it is absent. -/
def requestFlag (key : String) (fields : List (String × Json)) : Validated Bool :=
  match Json.present? key fields with
  | none => .valid false
  | some value => .ofOption (flag? value) [.key key] (.notFlag "flag")

/-- The visibility of deleted rows that a request asks for. -/
def trashed (fields : List (String × Json)) : Validated Trashed :=
  ((requestFlag "with_trashed" fields).both (requestFlag "only_trashed" fields)).map fun parts =>
    Trashed.ofFlags parts.1 parts.2

end QueryGate.Request
