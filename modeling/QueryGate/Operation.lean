import QueryGate.Query.Basic

/-!
# Operations

The requests that a resource serves. Two of them return lists and apply the
whole query; the others act on one row and regard only which deleted rows they
may see.
-/

set_option autoImplicit false

namespace QueryGate

/-- The kinds of requests that a query is built for. -/
inductive Operation where
  | index
  | search
  | detail
  | update
  | destroy
  | restore
deriving DecidableEq, Repr

namespace Operation

/-- The name of the operation. -/
def text : Operation → String
  | index => "index"
  | search => "search"
  | detail => "show"
  | update => "update"
  | destroy => "destroy"
  | restore => "restore"

/-- Every operation. -/
def list : List Operation :=
  [index, search, detail, update, destroy, restore]

/-- The operation of a name. -/
def ofText? (name : String) : Option Operation :=
  list.find? fun operation => operation.text == name

/-- Names are read back. -/
theorem ofText?_text (operation : Operation) : ofText? operation.text = some operation := by
  cases operation <;> decide

/-- Whether the operation returns a list of rows. -/
def isList : Operation → Bool
  | index => true
  | search => true
  | _ => false

/-- The visibility that the operation runs with. A restore acts on deleted rows,
so it sees them even where the request does not ask for them. -/
def trashed (operation : Operation) (requested : Trashed) : Trashed :=
  match operation, requested with
  | restore, .only => .only
  | restore, _ => .included
  | _, requested => requested

end Operation

end QueryGate
