import QueryGate.Sql.Basic

/-!
# Filter operators

The fourteen operators of a filter and their spellings. Six compare, four match
patterns, and four take a list of values.
-/

set_option autoImplicit false

namespace QueryGate

/-- The operators of a filter. -/
inductive Operator where
  | less
  | atMost
  | greater
  | atLeast
  | equal
  | unequal
  | like
  | notLike
  | likeAnyCase
  | notLikeAnyCase
  | among
  | notAmong
  | containsAll
  | containsAny
deriving DecidableEq, Repr

namespace Operator

/-- Every operator, in the order in which messages list them. -/
def list : List Operator :=
  [less, atMost, greater, atLeast, equal, unequal, like, notLike, likeAnyCase, notLikeAnyCase,
    among, notAmong, containsAll, containsAny]

/-- The spelling of the operator in a request. -/
def text : Operator → String
  | less => "<"
  | atMost => "<="
  | greater => ">"
  | atLeast => ">="
  | equal => "="
  | unequal => "!="
  | like => "like"
  | notLike => "not like"
  | likeAnyCase => "ilike"
  | notLikeAnyCase => "not ilike"
  | among => "in"
  | notAmong => "not in"
  | containsAll => "all in"
  | containsAny => "any in"

/-- The operator of a spelling. -/
def ofText? (spelling : String) : Option Operator :=
  list.find? fun operator => operator.text == spelling

/-- Whether the operator takes a list of values. -/
def isMembership : Operator → Bool
  | among => true
  | notAmong => true
  | containsAll => true
  | containsAny => true
  | _ => false

/-- The comparison that the operator stands for. -/
def comparison? : Operator → Option Sql.Comparison
  | less => some .less
  | atMost => some .atMost
  | greater => some .greater
  | atLeast => some .atLeast
  | equal => some .equal
  | unequal => some .unequal
  | _ => none

/-- Whether the operator compares, so that dates have a form of their own. -/
def isComparison (operator : Operator) : Bool :=
  operator.comparison?.isSome

/-- Whether the operator can ask for a missing value. -/
def takesNull : Operator → Bool
  | equal => true
  | unequal => true
  | _ => false

/-- Spellings are read back. -/
theorem ofText?_text (operator : Operator) : ofText? operator.text = some operator := by
  cases operator <;> decide

end Operator

end QueryGate
