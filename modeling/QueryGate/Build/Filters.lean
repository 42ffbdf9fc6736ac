import QueryGate.Build.Existence
import QueryGate.Build.Predicate

/-!
# Filters as conditions

A filter list is read with the precedence of SQL: `and` binds tighter than
`or`. Going through the siblings, a run of conditions is open to which `and`
adds, and `or` closes it and opens the next one; the list is the disjunction of
its runs. The combinator of the first condition has nothing to bind to and is
not regarded. A group without any test is left out together with its own
combinator.
-/

set_option autoImplicit false

namespace QueryGate

/-- The condition of a test on the column that its field names: a column of the
root table, of the pivot table, or of a related row, which has to exist. -/
def testGroup (context : Context) (test : FieldTest) : Except Failure Sql.Group :=
  let path := FieldPath.ofText test.field
  match path.relation with
  | none =>
      predicate context.backend
        ⟨⟨context.root.table, path.field⟩, context.root.isDateField path.field⟩ test
  | some relation =>
      if relation = pivotName then
        match context.pivot with
        | none => .error (.misconfigured (.missingPivot test.field context.root.table))
        | some pivot =>
            predicate context.backend
              ⟨⟨pivot.table, path.field⟩, pivot.isDateField path.field⟩ test
      else
        (context.pathExists relation fun name related =>
          predicate context.backend ⟨⟨name, path.field⟩, related.isDateField path.field⟩ test).map
            Sql.Group.one

/-- The runs of a filter list so far. -/
structure Runs where
  closed : List Sql.Group := []
  current : Option Sql.Group := none

namespace Runs

/-- The runs with one more condition. -/
def add (runs : Runs) (combinator : Combinator) (group : Sql.Group) : Runs :=
  match combinator, runs.current with
  | .or, some run => ⟨runs.closed ++ [run], some (Sql.Group.all.addGroup group)⟩
  | .and, some run => ⟨runs.closed, some (run.addGroup group)⟩
  | _, none => ⟨runs.closed, some (Sql.Group.all.addGroup group)⟩

/-- All runs, the open one last. -/
def toList (runs : Runs) : List Sql.Group :=
  runs.closed ++ runs.current.toList

/-- The disjunction of the runs, when there are any. -/
def toGroup? (runs : Runs) : Option Sql.Group :=
  match runs.toList with
  | [] => none
  | [run] => some run
  | several => some (several.foldl Sql.Group.addGroup .any)

end Runs

mutual

/-- The condition of a filter, when it holds any test. -/
def nodeGroup (context : Context) : Filter → Except Failure (Option Sql.Group)
  | .test _ test => (testGroup context test).map some
  | .group _ members => (collectRuns context {} members).map Runs.toGroup?

/-- The runs of a filter list, added to the runs so far. -/
def collectRuns (context : Context) (runs : Runs) : List Filter → Except Failure Runs
  | [] => .ok runs
  | filter :: filters => do
      match ← nodeGroup context filter with
      | none => collectRuns context runs filters
      | some group => collectRuns context (runs.add filter.combinator group) filters

end

/-- The condition of a filter list, when it holds any test. -/
def filterGroup (context : Context) (filters : List Filter) : Except Failure (Option Sql.Group) :=
  (collectRuns context {} filters).map Runs.toGroup?

end QueryGate
