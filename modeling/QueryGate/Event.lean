import QueryGate.Failure

/-!
# The log

What happens while a request is served is a list of events beside the result.
An `Outcome` carries both: the events of a computation up to its end or its
failure, and then its result. Putting two computations in sequence appends
their events, and the second one does not run after a failure of the first.
-/

set_option autoImplicit false

namespace QueryGate

/-- How far the building of a query has come. -/
inductive Milestone where
  | start
  | scopesApplied
  | filtersApplied
  | searchApplied
  | sortApplied
  | softDeleteApplied
  | done
deriving DecidableEq, Repr

/-- The name of a milestone in the log. -/
def Milestone.text : Milestone → String
  | start => "start"
  | scopesApplied => "scopes_applied"
  | filtersApplied => "filters_applied"
  | searchApplied => "search_applied"
  | sortApplied => "sort_applied"
  | softDeleteApplied => "soft_delete_applied"
  | done => "done"

/-- The place of a milestone in the order of building. -/
def Milestone.rank : Milestone → Nat
  | start => 0
  | scopesApplied => 1
  | filtersApplied => 2
  | searchApplied => 3
  | sortApplied => 4
  | softDeleteApplied => 5
  | done => 6

/-- An event of the log. -/
inductive Event where
  | reached (table operation : String) (milestone : Milestone)
  | skippedWildcard (pattern : String)
  | skippedPivotSearch (pattern : String)
  | skippedPivotSort (field : String)
  | skippedLooseSort (relation : String)
  /-- A failure was turned into a response. -/
  | refused (failure : Failure)
deriving DecidableEq, Repr

/-- How serious an event is. -/
inductive Level where
  | debug
  | error
deriving DecidableEq, Repr

/-- The name of a level. -/
def Level.text : Level → String
  | debug => "DEBUG"
  | error => "ERROR"

namespace Event

/-- How serious the event is. What is wrong inside the resource or the host is
an error; a refusal that the client can mend is not. -/
def level : Event → Level
  | refused failure => if failure.detail?.isSome then .error else .debug
  | _ => .debug

/-- The sentence of the event. -/
def message : Event → String
  | reached _ _ _ => "Query build stage"
  | skippedWildcard _ => "Skipping wildcard searchable pattern"
  | skippedPivotSearch _ => "Skipping pivot search field without a pivot table"
  | skippedPivotSort _ => "Skipping pivot sort without a pivot table"
  | skippedLooseSort _ => "Skipping sort through morph-to relation"
  | refused (.misconfigured _) => "Resource definition cannot resolve query"
  | refused (.internal _ (some _)) => "Internal error occurred"
  | refused _ => "Query rejected"

/-- The named values of the event. -/
def fields : Event → List (String × String)
  | reached table operation milestone =>
      [("table", table), ("operation", operation), ("stage", milestone.text)]
  | skippedWildcard pattern => [("pattern", pattern)]
  | skippedPivotSearch pattern => [("pattern", pattern)]
  | skippedPivotSort field => [("field", field)]
  | skippedLooseSort relation => [("relation", relation)]
  | refused failure =>
      match failure.detail? with
      | some detail => [("details", detail)]
      | none => [("error", failure.message), ("status", failure.status.text)]

end Event

/-- A result with the events on the way to it. -/
structure Outcome (α : Type) where
  events : List Event
  result : Except Failure α

namespace Outcome

variable {α β : Type}

/-- A result without events. -/
def ofResult (result : Except Failure α) : Outcome α :=
  ⟨[], result⟩

/-- An event. -/
def emit (event : Event) : Outcome Unit :=
  ⟨[event], .ok ()⟩

/-- One computation after another. -/
def andThen (first : Outcome α) (next : α → Outcome β) : Outcome β :=
  match first.result with
  | .ok value => ⟨first.events ++ (next value).events, (next value).result⟩
  | .error failure => ⟨first.events, .error failure⟩

instance : Monad Outcome where
  pure value := ofResult (.ok value)
  bind := andThen

@[simp]
theorem result_bind (first : Outcome α) (next : α → Outcome β) :
    (first >>= next).result = first.result.bind fun value => (next value).result := by
  show (first.andThen next).result = _
  unfold andThen
  cases first.result <;> rfl

@[simp]
theorem result_pure (value : α) : (pure value : Outcome α).result = .ok value := rfl

@[simp]
theorem events_pure (value : α) : (pure value : Outcome α).events = [] := rfl

@[simp]
theorem result_ofResult (result : Except Failure α) : (ofResult result).result = result := rfl

@[simp]
theorem events_ofResult (result : Except Failure α) : (ofResult result).events = [] := rfl

@[simp]
theorem result_emit (event : Event) : (emit event).result = .ok () := rfl

@[simp]
theorem events_emit (event : Event) : (emit event).events = [event] := rfl

/-- After a success the events of the next computation follow. -/
theorem events_bind_of_ok (first : Outcome α) (next : α → Outcome β) (value : α)
    (succeeded : first.result = .ok value) :
    (first >>= next).events = first.events ++ (next value).events := by
  show (first.andThen next).events = _
  unfold andThen
  rw [succeeded]

/-- After a failure nothing follows. -/
theorem events_bind_of_error (first : Outcome α) (next : α → Outcome β) (failure : Failure)
    (failed : first.result = .error failure) : (first >>= next).events = first.events := by
  show (first.andThen next).events = _
  unfold andThen
  rw [failed]

end Outcome

end QueryGate
