import QueryGate.Build.Scopes
import QueryGate.Config
import QueryGate.Model.Basic
import QueryGate.Whitelist

/-!
# Resources

A resource is all that the queries on one table need: the root model, the
whitelists, the registered scopes, the models that relation paths can reach,
and the settings. It is put together once and only read afterwards.

A model specification is what a resource can be started from: the model without
its relations, the whitelists and the page size.
-/

set_option autoImplicit false

namespace QueryGate

/-- What is declared about a model at its definition. -/
structure ModelSpec where
  table : String
  primaryKey : String := "id"
  softDelete : Option String := none
  pageLimit : UInt64 := ({} : Config).defaultLimit
  filterable : List String := []
  sortable : List String := []
  searchable : List String := []
  dateFields : List String := []
deriving DecidableEq, Repr

/-- The declared model, without relations. -/
def ModelSpec.model (spec : ModelSpec) : Model :=
  { table := spec.table
    primaryKey := spec.primaryKey
    dateFields := spec.dateFields
    softDelete := spec.softDelete }

/-- All that the queries on one table need. -/
structure Resource where
  model : Model
  whitelist : Whitelist := {}
  scopes : ScopeRegistry := []
  catalog : Catalog := []
  config : Config := {}
  /-- The page size of the resource itself, before the configured one. -/
  pageLimit : Option UInt64 := none

namespace Resource

/-- The resource of a declared model. A declared page size counts as set for
the resource when it is not the usual one. -/
def ofSpec (spec : ModelSpec) : Resource :=
  { model := spec.model
    whitelist :=
      { filterable := spec.filterable
        sortable := spec.sortable
        searchable := spec.searchable }
    pageLimit :=
      if spec.pageLimit = ({} : Config).defaultLimit then none else some spec.pageLimit }

/-- The resource with more filterable patterns. -/
def allowFilters (resource : Resource) (patterns : List String) : Resource :=
  { resource with
    whitelist :=
      { resource.whitelist with filterable := resource.whitelist.filterable ++ patterns } }

/-- The resource with more sortable patterns. -/
def allowSorts (resource : Resource) (patterns : List String) : Resource :=
  { resource with
    whitelist := { resource.whitelist with sortable := resource.whitelist.sortable ++ patterns } }

/-- The resource with more searchable patterns. -/
def allowSearches (resource : Resource) (patterns : List String) : Resource :=
  { resource with
    whitelist :=
      { resource.whitelist with searchable := resource.whitelist.searchable ++ patterns } }

/-- The resource with more exposed scopes. -/
def exposeScopes (resource : Resource) (names : List String) : Resource :=
  { resource with
    whitelist := { resource.whitelist with exposed := resource.whitelist.exposed ++ names } }

/-- The resource with a registered scope, which is not exposed by that. -/
def registerScope (resource : Resource) (name : String) (scope : Scope) : Resource :=
  { resource with scopes := Keyed.insert name scope resource.scopes }

/-- The resource with a relation of its root model. -/
def addRelation (resource : Resource) (name : String) (relation : Relation) : Resource :=
  { resource with model := resource.model.addRelation name relation }

/-- The resource with a model that relation paths can reach. -/
def addModel (resource : Resource) (model : Model) : Resource :=
  { resource with catalog := resource.catalog.register model }

/-- The resource with other settings. -/
def configure (resource : Resource) (config : Config) : Resource :=
  { resource with config := config }

/-- The resource with a page size of its own. -/
def paginateBy (resource : Resource) (limit : UInt64) : Resource :=
  { resource with pageLimit := some limit }

/-- The page size for requests that do not ask for one. -/
def defaultLimit (resource : Resource) : UInt64 :=
  resource.pageLimit.getD resource.config.defaultLimit

/-- The model of a table, the root included. -/
def modelOf? (resource : Resource) (table : String) : Option Model :=
  resource.catalog.modelOf? resource.model table

end Resource

end QueryGate
