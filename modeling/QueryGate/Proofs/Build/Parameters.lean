import QueryGate.Proofs.Build.Levels
import QueryGate.Proofs.Filter.Gathering
import QueryGate.Proofs.Filter.Precedence
import QueryGate.Proofs.Request.Leaves
import QueryGate.Proofs.Sql.Parameters

/-!
# The parameters of filters

The values that the condition of a filter list binds. A test binds first the constants of the
rows that have to exist along the path of its field, then those of an empty list, and then its
own scalars, each in the form that its operator gives it and beside the column of its field
(`parameters_testGroup`). The condition of a list binds what its tests bind, one after
another, so the scalars of a request are bound in the order of the document
(`parameters_of_parse`).

The constants are made of the field and the operator, and of whether a list is empty; no value
of the request goes into them (`Context.constants`).
-/

set_option autoImplicit false

namespace QueryGate

open QueryGate.Filter (listTests)
open Sql (Parameter gathers_parameters)

/-! ## Parameters of predicates -/

/-- The value that an operator binds for a scalar: the text of a pattern, in lower case where
case does not count; for elements of JSON arrays what the backend asks for, the value itself,
its JSON text, or the JSON text of an array of it alone; and the value itself elsewhere. -/
def Operator.bound (operator : Operator) (backend : Sql.Backend) (scalar : Scalar) : Sql.Value :=
  match operator with
  | like | notLike => .text scalar.toText
  | likeAnyCase | notLikeAnyCase => .text (Text.lowercase scalar.toText)
  | containsAll | containsAny =>
      match backend with
      | .sqlite => scalar.toValue
      | .mysql => .text scalar.toJson.write
      | .postgres => .text (Json.array [scalar.toJson]).write
  | less | atMost | greater | atLeast | equal | unequal | among | notAmong => scalar.toValue

/-- The constants that an operator binds for an empty list, none for any other value: two equal
numbers where nothing is asked for, and two different ones where nothing can be found. -/
def Operator.constants (operator : Operator) (emptyList : Bool) : List Parameter :=
  let holds := operator = .notAmong ∨ operator = .containsAll
  if emptyList then [⟨none, .int 1⟩, ⟨none, .int (if holds then 1 else 0)⟩] else []

/-- Whether the value is the empty list. -/
def FilterValue.isEmptyList : FilterValue → Bool
  | list [] => true
  | _ => false

/-- The parameters that a test binds for its scalars, beside the column of its field. -/
def FieldTest.given (fieldTest : FieldTest) (backend : Sql.Backend) (column : Sql.Column) :
    List Parameter :=
  fieldTest.value.scalars.map fun scalar => ⟨some column, fieldTest.operator.bound backend scalar⟩

section Predicates

variable (backend : Sql.Backend) (column : Sql.Column)

theorem parameters_containment (scalar : Scalar) :
    (containment backend (.column column) scalar).parameters =
      [⟨some column, Operator.containsAll.bound backend scalar⟩] := by
  cases backend <;> rfl

theorem parameters_scalarCondition (operator : Operator) (scalar : Scalar) :
    (scalarCondition backend (.column column) operator scalar).parameters =
      [⟨some column, operator.bound backend scalar⟩] := by
  cases operator with
  | containsAll => exact parameters_containment backend column scalar
  | containsAny => exact parameters_containment backend column scalar
  | _ => rfl

/-- A comparison binds its scalar as it is, and so does one of dates. -/
theorem parameters_dateCondition {operator : Operator} {comparison : Sql.Comparison}
    (compares : operator.comparison? = some comparison) (scalar : Scalar) :
    (dateCondition backend (.column column) comparison scalar).parameters =
      [⟨some column, operator.bound backend scalar⟩] := by
  cases operator <;> cases compares <;> rfl

/-- A list binds a constant pair or its scalars one by one. -/
theorem parameters_membership {operator : Operator} (takesList : operator.isMembership = true)
    (field : String) (values : List Scalar) :
    (membership backend (.column column) operator values).parameters =
      operator.constants (FilterValue.list values).isEmptyList ++
        (FieldTest.mk field operator (.list values)).given backend column := by
  cases values with
  | nil => cases operator <;> rfl
  | cons value values =>
      have contained (group : Sql.Group) (empty : group.parameters = []) :
          (((value :: values).map (containment backend (.column column))).foldl
              Sql.Group.add group).parameters =
            (value :: values).map fun scalar =>
              ⟨some column, Operator.containsAll.bound backend scalar⟩ := by
        rw [Sql.Group.parameters, Sql.Group.gather_foldl_add gathers_parameters,
          ← Sql.Group.parameters, empty, List.nil_append, List.flatMap_map, List.map_eq_flatMap]
        exact List.flatMap_congr fun scalar _ => parameters_containment backend column scalar
      have listed (negated : Bool) :
          (Sql.Group.one (.among negated (.column column)
              ((value :: values).map Scalar.toValue))).parameters =
            (value :: values).map fun scalar => ⟨some column, scalar.toValue⟩ := by
        rw [Sql.Group.parameters, Sql.Group.gather_one gathers_parameters,
          Sql.Condition.parameters, List.map_map]
        rfl
      cases operator with
      | containsAll => exact contained .all rfl
      | containsAny => exact contained .any rfl
      | among => exact listed false
      | notAmong => exact listed true
      | _ => cases takesList

/-- A predicate binds the constants of an empty list, or the scalars of its test. -/
theorem parameters_predicate {target : Target} {fieldTest : FieldTest} {group : Sql.Group}
    (made : predicate backend target fieldTest = .ok group) :
    group.parameters =
      fieldTest.operator.constants fieldTest.value.isEmptyList ++
        fieldTest.given backend target.column := by
  have sole {condition : Sql.Condition} {parameters : List Parameter}
      (binds : condition.parameters = parameters) :
      (Sql.Group.one condition).parameters = parameters := by
    rw [Sql.Group.parameters, Sql.Group.gather_one gathers_parameters, binds]
  obtain ⟨field, operator, value⟩ := fieldTest
  cases value with
  | null =>
      cases operator <;> cases made <;> rfl
  | scalar scalar =>
      unfold predicate at made
      dsimp only at made
      split at made
      · next compares =>
          cases made
          exact sole (parameters_dateCondition backend target.column compares scalar)
      · cases made
        exact sole (parameters_scalarCondition backend target.column operator scalar)
  | list values =>
      unfold predicate at made
      dsimp only at made
      split at made
      · next takesList =>
          cases made
          exact parameters_membership backend target.column takesList field values
      · cases made

end Predicates

/-! ## Constants along paths -/

/-- The class that a polymorphic relation looks at, beside the column that it stands in. -/
def Relation.classConstants (hopAlias : String) : Relation → List Parameter
  | morphOne _ typeColumn _ className _ | morphMany _ typeColumn _ className _ =>
      [⟨some ⟨hopAlias, typeColumn⟩, .text className⟩]
  | _ => []

/-- The constants of hops after the names before them: for each a constant for the row that
has to exist, and the class where its relation looks at one. -/
def hopConstants (before : List String) : List Hop → List Parameter
  | [] => []
  | hop :: hops =>
      ⟨none, .int 1⟩ ::
        (hop.relation.classConstants (pathAlias (before ++ [hop.name])) ++
          hopConstants (before ++ [hop.name]) hops)

/-- The constants along the path of a field, none for a column of the root table or of the
pivot table. -/
def Context.pathConstants (context : Context) (field : String) : List Parameter :=
  match (FieldPath.ofText field).relation with
  | none => []
  | some relation =>
      if relation = pivotName then []
      else
        match context.resolve relation with
        | .ok hops => hopConstants [] hops
        | .error _ => []

variable {context : Context}

/-- A level binds its constants, and then what is asked of its row. -/
theorem HopLevel.Serves.parameters {level : HopLevel} {hop : Hop} {related : Model}
    {hopAlias parentName : String} (serves : level.Serves hop related hopAlias parentName) :
    level.standing.flatMap Sql.Condition.parameters = hop.relation.classConstants hopAlias := by
  obtain ⟨key, parentKey, standing⟩ := Relation.standing_of_level? serves.made
  have classes : (hop.relation.classChecks hopAlias).flatMap Sql.Condition.parameters =
      hop.relation.classConstants hopAlias := by
    cases hop.relation <;> rfl
  have live : (related.liveChecks hopAlias).flatMap Sql.Condition.parameters = [] := by
    unfold Model.liveChecks
    cases related.softDelete <;> rfl
  rw [standing, List.flatMap_cons, List.flatMap_append, classes, live, List.append_nil]
  rfl

/-- Levels bind the constants of their hops, and then what the innermost condition binds. -/
theorem HopLevels.parameters_nested {before : List String} {hops : List Hop}
    {levels : List HopLevel} (follows : HopLevels context before hops levels)
    (innermost : Sql.Condition) :
    (nested innermost levels).parameters = hopConstants before hops ++ innermost.parameters := by
  induction follows with
  | nil before => rfl
  | cons reached serves rest ih =>
      rw [nested, Sql.Condition.parameters, gathers_parameters, List.flatMap_append,
        serves.parameters, List.flatMap_singleton, ih, hopConstants, List.cons_append,
        List.append_assoc]

/-- The condition along a path binds the constants of the path, and then what is asked of the
row that it reaches. -/
theorem parameters_pathExists {relation : String}
    {inner : String → Model → Except Failure Sql.Group} {condition : Sql.Condition}
    (made : context.pathExists relation inner = .ok condition) :
    ∃ hops last group, context.resolve relation = .ok hops ∧
      inner (pathAlias (relationNames relation)) last = .ok group ∧
      condition.parameters = hopConstants [] hops ++ group.parameters := by
  have reaches : context.Reaches relation := by
    by_contra astray
    obtain ⟨cause, refused⟩ := Context.pathExists_of_not_reaches astray
    rw [refused] at made
    cases made
  obtain ⟨hops, walked⟩ := reaches.resolves
  obtain ⟨levels, last, follows, _, asked⟩ :=
    Context.pathExists_eq_nested walked ((Context.joins_iff_reaches walked).mpr reaches)
  rw [asked, Success.map_eq_ok_iff] at made
  obtain ⟨group, built, rfl⟩ := made
  refine ⟨hops, last, group, walked, built, ?_⟩
  rw [follows.parameters_nested, gathers_parameters.unwrapped,
    Sql.Group.read_toCondition gathers_parameters, Sql.Group.parameters]

/-! ## Parameters of tests -/

/-- The constants that a test binds: those along the path of its field, and those of an empty
list. What they depend on is the field and the operator, and whether the value is an empty
list. -/
def Context.constants (context : Context) (field : String) (operator : Operator)
    (emptyList : Bool) : List Parameter :=
  context.pathConstants field ++ operator.constants emptyList

/-- The condition of a test binds its constants, and then its scalars beside the column that
its field names. -/
theorem parameters_testGroup {fieldTest : FieldTest} {group : Sql.Group}
    (made : testGroup context fieldTest = .ok group) :
    ∃ column, FieldColumn context fieldTest.field column ∧
      group.parameters =
        context.constants fieldTest.field fieldTest.operator fieldTest.value.isEmptyList ++
          fieldTest.given context.backend column := by
  unfold testGroup at made
  unfold Context.constants Context.pathConstants
  rcases FieldPath.ofText_cases fieldTest.field with
    ⟨path, single⟩ | ⟨relation, field, path, text, last⟩
  · rw [path] at made ⊢
    exact ⟨_, .root single, parameters_predicate _ made⟩
  · rw [path] at made ⊢
    dsimp only at made ⊢
    split at made
    · next pivots =>
        rw [pivots] at text
        split at made
        · cases made
        · next pivot listed =>
            refine ⟨⟨pivot.table, field⟩, text ▸ .pivot listed last, ?_⟩
            rw [if_pos pivots]
            exact parameters_predicate _ made
    · next other =>
        obtain ⟨condition, found, rfl⟩ := (Success.map_eq_ok_iff _ _ _).mp made
        obtain ⟨_, _, declared, _⟩ := references_pathExists found
        obtain ⟨hops, _, inner, walked, asked, binds⟩ := parameters_pathExists found
        refine ⟨⟨pathAlias (relationNames relation), field⟩,
          text ▸ .related other declared last, ?_⟩
        rw [if_neg other, walked, Sql.Group.parameters,
          Sql.Group.gather_one gathers_parameters, binds, parameters_predicate _ asked,
          List.append_assoc]

/-! ## Parameters of requests -/

/-- A test, and the column beside which its scalars are bound. -/
structure BoundTest where
  test : FieldTest
  column : Sql.Column

namespace BoundTest

/-- The leaf asks for the test, and its field names the column. -/
structure Serves (bound : BoundTest) (context : Context) (leaf : List (String × Json)) : Prop where
  asked : Request.LeafAsks leaf bound.test
  names : FieldColumn context bound.test.field bound.column

/-- What the test binds: its constants, and then its scalars. -/
def parameters (bound : BoundTest) (context : Context) : List Parameter :=
  context.constants bound.test.field bound.test.operator bound.test.value.isEmptyList ++
    bound.test.given context.backend bound.column

end BoundTest

/-- Tests that all have a condition bind what their conditions bind, beside the columns that
their fields name. -/
theorem exists_boundTests {leaves : List (List (String × Json))} {fieldTests : List FieldTest}
    (asked : List.Forall₂ Request.LeafAsks leaves fieldTests)
    (built : AllBuilt context fieldTests) :
    ∃ tests : List BoundTest,
      List.Forall₂ (fun leaf bound => bound.Serves context leaf) leaves tests ∧
      fieldTests.flatMap (testGather context Sql.Condition.parameters) =
        tests.flatMap fun bound => bound.parameters context := by
  induction asked with
  | nil => exact ⟨[], .nil, rfl⟩
  | @cons leaf fieldTest leaves fieldTests here _ ih =>
      obtain ⟨⟨group, made⟩, later⟩ := List.forall_mem_cons.mp built
      obtain ⟨tests, serve, binds⟩ := ih later
      obtain ⟨column, names, own⟩ := parameters_testGroup made
      refine ⟨⟨fieldTest, column⟩ :: tests, .cons ⟨here, names⟩ serve, ?_⟩
      rw [List.flatMap_cons, List.flatMap_cons, binds, testGather, made]
      exact congrArg (· ++ _) own

/-- The scalars of the tests are the values that the leaves give, in their order. -/
theorem scalars_of_leaves {leaves : List (List (String × Json))} {tests : List BoundTest}
    (serve : List.Forall₂ (fun leaf bound => bound.Serves context leaf) leaves tests) :
    (leaves.flatMap Request.operands).map Scalar.ofJson? =
      (tests.flatMap fun bound => bound.test.value.scalars).map some := by
  induction serve with
  | nil => rfl
  | cons here _ ih =>
      rw [List.flatMap_cons, List.flatMap_cons, List.map_append, List.map_append, ih,
        here.asked.scalars]

/-- A body with a pattern for the text of a note in a group, and beside it a list of tags and
an empty list of titles. -/
def notedBody : Json :=
  .object
    [("filters", .array
        [.object
            [("nested", .array
                [.object
                    [("field", .text "author.teams.notes.text"), ("operator", .text "ilike"),
                      ("value", .text "%Lean%")]])],
          .object
            [("field", .text "tags"), ("type", .text "or"), ("operator", .text "any in"),
              ("value", .array [.text "Logic", .bool true])],
          .object [("field", .text "title"), ("value", .array [])]])]

end QueryGate
