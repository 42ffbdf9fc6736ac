import QueryGate.Failure
import QueryGate.Query.Filter
import QueryGate.Sql.Backend
import QueryGate.Text.Casing

/-!
# Predicates on a column

The condition that a test puts on its column. What the condition looks like
depends on the operator, on the kind of the value and, for comparisons, on
whether the column is compared by its date alone. A value that the operator
cannot take is a violation; a request that was checked has none.
-/

set_option autoImplicit false

namespace QueryGate

/-- The column that a test is applied to. -/
structure Target where
  column : Sql.Column
  /-- Whether the column is compared by its date alone. -/
  isDate : Bool
deriving DecidableEq, Repr

namespace Target

/-- The column as an operand. -/
def operand (target : Target) : Sql.Operand :=
  .column target.column

end Target

/-- Whether the JSON array of an operand contains a scalar. The element is bound
as it is, as its JSON text, or as the JSON text of an array of it alone. -/
def containment (backend : Sql.Backend) (array : Sql.Operand) (element : Scalar) : Sql.Condition :=
  let form := backend.containment
  match form with
  | .rows => .contains form array element.toValue
  | .function => .contains form array (.text element.toJson.write)
  | .operator => .contains form array (.text (Json.array [element.toJson]).write)

/-- The condition of an operator with a scalar. -/
def scalarCondition (backend : Sql.Backend) (operand : Sql.Operand) (operator : Operator)
    (scalar : Scalar) : Sql.Condition :=
  match operator with
  | .less => .compare .less operand (.value scalar.toValue)
  | .atMost => .compare .atMost operand (.value scalar.toValue)
  | .greater => .compare .greater operand (.value scalar.toValue)
  | .atLeast => .compare .atLeast operand (.value scalar.toValue)
  | .equal => .compare .equal operand (.value scalar.toValue)
  | .unequal => .compare .unequal operand (.value scalar.toValue)
  | .like => .like false operand scalar.toText false
  | .notLike => .like true operand scalar.toText false
  | .likeAnyCase => .like false (.lower operand) (Text.lowercase scalar.toText) false
  | .notLikeAnyCase => .like true (.lower operand) (Text.lowercase scalar.toText) false
  | .among => .among false operand [scalar.toValue]
  | .notAmong => .among true operand [scalar.toValue]
  | .containsAll => containment backend operand scalar
  | .containsAny => containment backend operand scalar

/-- The condition of a comparison on a date column: the dates of both sides. -/
def dateCondition (backend : Sql.Backend) (operand : Sql.Operand) (comparison : Sql.Comparison)
    (scalar : Scalar) : Sql.Condition :=
  .compare comparison (.date backend.dateForm operand)
    (.date backend.dateForm (.value scalar.toValue))

/-- The condition of a membership operator with no values: nothing is among
them, and an array contains all of them. -/
def emptyMembership (operator : Operator) : Sql.Condition :=
  let holds := operator = .notAmong ∨ operator = .containsAll
  .compare .equal (.value (.int 1)) (.value (.int (if holds then 1 else 0)))

/-- The condition of a membership operator with a list of values. -/
def membership (backend : Sql.Backend) (operand : Sql.Operand) (operator : Operator)
    (values : List Scalar) : Sql.Group :=
  if values.isEmpty then .one (emptyMembership operator)
  else
    match operator with
    | .containsAll => (values.map (containment backend operand)).foldl Sql.Group.add .all
    | .containsAny => (values.map (containment backend operand)).foldl Sql.Group.add .any
    | .notAmong => .one (.among true operand (values.map Scalar.toValue))
    | _ => .one (.among false operand (values.map Scalar.toValue))

/-- The condition that a test puts on its column. -/
def predicate (backend : Sql.Backend) (target : Target) (test : FieldTest) :
    Except Failure Sql.Group :=
  match test.value with
  | .null =>
      match test.operator with
      | .equal => .ok (.one (.isNull false target.operand))
      | .unequal => .ok (.one (.isNull true target.operand))
      | operator => .error (.violation [.key test.field] (.nullOperand operator.text))
  | .scalar scalar =>
      match target.isDate, test.operator.comparison? with
      | true, some comparison =>
          .ok (.one (dateCondition backend target.operand comparison scalar))
      | _, _ => .ok (.one (scalarCondition backend target.operand test.operator scalar))
  | .list values =>
      if test.operator.isMembership then
        .ok (membership backend target.operand test.operator values)
      else .error (.violation [.key test.field] (.listOperand test.operator.text))

end QueryGate
