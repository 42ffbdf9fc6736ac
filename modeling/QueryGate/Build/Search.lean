import QueryGate.Build.Existence
import QueryGate.Event
import QueryGate.Query.Basic
import QueryGate.Text.Casing
import QueryGate.Whitelist

/-!
# Search

A search asks whether the term occurs in any of the searchable fields. The
characters with a meaning in patterns are escaped, so the term only ever
matches itself. Where case does not count, both sides are in lower case; where
it does, each backend has a form of its own, since two of them match patterns
without regard to case.
-/

set_option autoImplicit false

namespace QueryGate

/-- A text with the pattern characters escaped by a backslash. -/
def escapePattern (text : List Char) : List Char :=
  text.flatMap fun character =>
    if character = '\x5C' ∨ character = '%' ∨ character = '_' then ['\x5C', character]
    else [character]

/-- The pattern of the texts that contain a term. -/
def containsPattern (term : String) : String :=
  String.ofList ('%' :: escapePattern term.toList ++ ['%'])

/-- Whether the operand contains a term. -/
def textCondition (backend : Sql.Backend) (operand : Sql.Operand) (term : SearchTerm) :
    Sql.Condition :=
  if !term.caseSensitive then
    .like false (.lower operand) (containsPattern (Text.lowercase term.value)) true
  else
    match backend with
    | .postgres => .like false operand (containsPattern term.value) true
    | .mysql => .like false (.binary operand) (containsPattern term.value) true
    | .sqlite => .compare .greater (.position operand (.text term.value)) (.value (.int 0))

/-- The condition of a search on one pattern of the searchable fields, when the
pattern names a column: a wildcard names none, and neither does a pivot field
where there is no pivot table. -/
def patternCondition (context : Context) (term : SearchTerm) (pattern : String) :
    Outcome (Option Sql.Condition) :=
  if pattern.toList.contains '*' then do
    Outcome.emit (.skippedWildcard pattern)
    return none
  else
    let path := FieldPath.ofText pattern
    match path.relation with
    | none =>
        return some (textCondition context.backend (.column ⟨context.root.table, path.field⟩) term)
    | some relation =>
        if relation = pivotName then
          match context.pivot with
          | none => do
              Outcome.emit (.skippedPivotSearch pattern)
              return none
          | some pivot =>
              return some (textCondition context.backend (.column ⟨pivot.table, path.field⟩) term)
        else
          Outcome.ofResult ((context.pathExists relation fun name _ =>
            .ok (.one (textCondition context.backend (.column ⟨name, path.field⟩) term))).map some)

/-- The conditions of a search on every pattern that names a column. -/
def searchConditions (context : Context) (term : SearchTerm) :
    List String → Outcome (List Sql.Condition)
  | [] => return []
  | pattern :: patterns => do
      let condition ← patternCondition context term pattern
      let conditions ← searchConditions context term patterns
      return condition.toList ++ conditions

/-- The condition of a search, when any pattern names a column. -/
def searchGroup (context : Context) (searchable : List String) (term : SearchTerm) :
    Outcome (Option Sql.Group) := do
  let conditions ← searchConditions context term searchable
  return if conditions.isEmpty then none else some (conditions.foldl Sql.Group.add .any)

end QueryGate
