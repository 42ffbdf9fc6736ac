import QueryGate.Proofs.Json.Integers
import QueryGate.Proofs.Request.Acceptance
import QueryGate.Request.QueryString

/-!
# Integers in the values of filters

A filter list with a number in it, as the value of a test or in a list of values, is
checked in the same way whatever the number is, except for the number itself: everything
else of the list is decided apart from it (`FilterHole.filterList_eq`).

So an integer literal in the filters of otherwise valid parameters decides alone what
becomes of them. An integer in the signed 64-bit words becomes exactly that word in the
query, and one beyond them that still fits an unsigned word is out of range. An integer
beyond both is a double for the reader of JSON, and so is minus zero. Nothing tells such a
double from a fraction, so it is taken as it is, rounded (`decode_integer`).
-/

set_option autoImplicit false

namespace QueryGate.Request

open Json (IntegerLiteral)

/-! ## Fields with one value open -/

/-- The key of another field has the same value, whatever stands in the open one. -/
theorem lookup_around_of_ne {key other : String} (different : other ≠ key) (value : Json)
    (front back : List (String × Json)) :
    (front ++ (key, value) :: back).lookup other = (front ++ back).lookup other := by
  induction front with
  | nil =>
      rw [List.nil_append, List.lookup_cons, beq_eq_false_iff_ne.mpr different]
      rfl
  | cons entry front ih =>
      rw [List.cons_append, List.cons_append, List.lookup_cons, List.lookup_cons, ih]

/-- The open field is the first one with its key. -/
theorem lookup_around {key : String} (value : Json) {front : List (String × Json)}
    (first : ∀ entry ∈ front, entry.1 ≠ key) (back : List (String × Json)) :
    (front ++ (key, value) :: back).lookup key = some value := by
  induction front with
  | nil => exact List.lookup_cons_self
  | cons entry front ih =>
      obtain ⟨different, later⟩ := List.forall_mem_cons.mp first
      rw [List.cons_append, List.lookup_cons, beq_eq_false_iff_ne.mpr different.symm]
      exact ih later

theorem present?_around_of_ne {key other : String} (different : other ≠ key) (value : Json)
    (front back : List (String × Json)) :
    Json.present? other (front ++ (key, value) :: back) = Json.present? other (front ++ back) := by
  rw [Json.present?, Json.present?, lookup_around_of_ne different]

/-! ## Filters with one number open -/

/-- Whether the value is a number. -/
def isNumber : Json → Bool
  | .int _ => true
  | .float _ => true
  | _ => false

/-- What is read for an integer literal is a number. -/
theorem isNumber_of_json? {literal : IntegerLiteral} {value : Json}
    (found : literal.json? = some value) : isNumber value = true := by
  unfold IntegerLiteral.json? at found
  split at found
  · cases found
    rfl
  · obtain ⟨_, _, rfl⟩ := Option.map_eq_some_iff.mp found
    rfl

/-- A filter list with the value of a test open, and the place of the value. The test may
stand in groups; the value is the whole right-hand side or an element of a list. -/
inductive FilterHole : Place → (Json → Json) → Prop where
  | scalar (items more : List Json) {front : List (String × Json)}
      (first : ∀ entry ∈ front, entry.1 ≠ "value") {back : List (String × Json)}
      (leaf : Json.present? "nested" (front ++ back) = none) :
      FilterHole [.index items.length, .key "value"] fun value =>
        .array (items ++ .object (front ++ ("value", value) :: back) :: more)
  | element (items more : List Json) {front : List (String × Json)}
      (first : ∀ entry ∈ front, entry.1 ≠ "value") {back : List (String × Json)}
      (leaf : Json.present? "nested" (front ++ back) = none) (values others : List Json) :
      FilterHole [.index items.length, .key "value", .index values.length] fun value =>
        .array (items ++
          .object (front ++ ("value", .array (values ++ value :: others)) :: back) :: more)
  | nested (items more : List Json) {front : List (String × Json)}
      (first : ∀ entry ∈ front, entry.1 ≠ "nested") (back : List (String × Json))
      {place : Place} {hole : Json → Json} (inside : FilterHole place hole) :
      FilterHole (.index items.length :: .key "nested" :: place) fun value =>
        .array (items ++ .object (front ++ ("nested", hole value) :: back) :: more)

/-- The scalar at a place in the right-hand side of a test. The list that a membership
test makes of a single scalar has no place of its own. -/
def scalarIn? : Place → FilterValue → Option Scalar
  | [], .scalar value => some value
  | [], .list [value] => some value
  | [.index position], .list values => values[position]?
  | _, _ => none

/-- The scalar at a place in a filter list. -/
def scalarAt? : Place → List Filter → Option Scalar
  | .index position :: .key key :: place, filters =>
      match filters[position]? with
      | some (.test _ test) => if key = "value" then scalarIn? place test.value else none
      | some (.group _ members) => if key = "nested" then scalarAt? place members else none
      | none => none
  | _, _ => none

/-! ## Checks with one number open -/

section Checks

variable (whitelist : Whitelist)

/-- The nodes of a list are checked apart. -/
theorem filterItems_around (place : Place) {items : List Json} (position : Nat) {item : Json}
    {more : List Json} {filters : List Filter}
    (accepted : filterItems whitelist place position (items ++ item :: more) = .valid filters) :
    ∃ before filter after, before.length = items.length ∧
      filterNode whitelist (place ++ [.index (position + items.length)]) item = .valid filter ∧
      ∀ other, filterItems whitelist place position (items ++ other :: more) =
        (filterNode whitelist (place ++ [.index (position + items.length)]) other).map
          fun filter => before ++ filter :: after := by
  induction items generalizing position filters with
  | nil =>
      rw [List.nil_append, filterItems, Validated.map_eq_valid_iff] at accepted
      obtain ⟨⟨filter, after⟩, both, _⟩ := accepted
      obtain ⟨here, later⟩ := (Validated.both_eq_valid_iff _ _ _).mp both
      refine ⟨[], filter, after, rfl, here, fun other => ?_⟩
      rw [List.nil_append, filterItems, later, Validated.both_valid, Validated.map_map]
      rfl
  | cons first items ih =>
      rw [List.cons_append, filterItems, Validated.map_eq_valid_iff] at accepted
      obtain ⟨⟨head, rest⟩, both, _⟩ := accepted
      obtain ⟨here, later⟩ := (Validated.both_eq_valid_iff _ _ _).mp both
      obtain ⟨before, filter, after, length, found, around⟩ := ih (position + 1) later
      have place : position + 1 + items.length = position + (first :: items).length := by
        rw [List.length_cons]
        omega
      rw [place] at found around
      refine ⟨head :: before, filter, after, congrArg (· + 1) length, found, fun other => ?_⟩
      rw [List.cons_append, filterItems, here, around, Validated.valid_both, Validated.map_map,
        Validated.map_map]
      rfl

variable {front back : List (String × Json)} {key : String}

theorem combinator_around (different : "type" ≠ key) (place : Place) (value : Json) :
    combinator place (front ++ (key, value) :: back) = combinator place (front ++ back) := by
  simp only [combinator, present?_around_of_ne different]

theorem filterField_around (different : "field" ≠ key) (place : Place) (value : Json) :
    filterField whitelist place (front ++ (key, value) :: back) =
      filterField whitelist place (front ++ back) := by
  simp only [filterField, fieldName, present?_around_of_ne different]

theorem fieldBeside_around (different : "field" ≠ key) (place : Place) (value : Json) :
    fieldBeside whitelist place (front ++ (key, value) :: back) =
      fieldBeside whitelist place (front ++ back) := by
  simp only [fieldBeside, present?_around_of_ne different, filterField_around whitelist different]

theorem operator?_around (different : "operator" ≠ key) (place : Place) (value : Json) :
    operator? place (front ++ (key, value) :: back) = operator? place (front ++ back) := by
  simp only [operator?, present?_around_of_ne different]

/-- The value of a test and its fit to the operator. -/
def fitted (place : Place) (given : Option Operator) (value : Validated FilterValue) :
    Validated (Operator × FilterValue) :=
  value.andThen fun right => fit place (given.getD (defaultOperator right)) right

/-- A test is checked apart from its value, and then for the fit of the value. -/
theorem filterNode_around_value {place : Place}
    (leaf : Json.present? "nested" (front ++ back) = none) {value : Json} {filter : Filter}
    (accepted : filterNode whitelist place (.object (front ++ ("value", value) :: back)) =
      .valid filter) :
    ∃ combinator field given,
      (∃ parts, fitted place given (filterValue place (front ++ ("value", value) :: back)) =
        .valid parts) ∧
      ∀ other : Json, filterNode whitelist place (.object (front ++ ("value", other) :: back)) =
        (fitted place given (filterValue place (front ++ ("value", other) :: back))).map
          fun parts => .test combinator ⟨field, parts.1, parts.2⟩ := by
  have node (other : Json) :
      filterNode whitelist place (.object (front ++ ("value", other) :: back)) =
        ((combinator place (front ++ back)).both
          ((filterField whitelist place (front ++ back)).both
            (((filterValue place (front ++ ("value", other) :: back)).both
              (operator? place (front ++ back))).andThen fun parts =>
                fit place (parts.2.getD (defaultOperator parts.1)) parts.1))).map fun parts =>
          .test parts.1 ⟨parts.2.1, parts.2.2.1, parts.2.2.2⟩ := by
    have nested : "nested" ≠ "value" := by decide
    have type : "type" ≠ "value" := by decide
    have field : "field" ≠ "value" := by decide
    have operator : "operator" ≠ "value" := by decide
    rw [filterNode, nestedFilters_eq, present?_around_of_ne nested, leaf]
    simp only [Option.map_none, Request.leaf, comparison, combinator_around type,
      filterField_around whitelist field, operator?_around operator]
  rw [node, Validated.map_eq_valid_iff] at accepted
  obtain ⟨⟨type, field, parts⟩, valid, _⟩ := accepted
  obtain ⟨typed, valid⟩ := (Validated.both_eq_valid_iff _ _ _).mp valid
  obtain ⟨named, valid⟩ := (Validated.both_eq_valid_iff _ _ _).mp valid
  obtain ⟨⟨right, given⟩, sides, fits⟩ := (Validated.andThen_eq_valid_iff _ _ _).mp valid
  obtain ⟨valued, operated⟩ := (Validated.both_eq_valid_iff _ _ _).mp sides
  dsimp only at typed named valued operated fits
  refine ⟨type, field, given, ⟨parts, by rw [valued]; exact fits⟩, fun other => ?_⟩
  rw [node, typed, named, operated, Validated.both_valid, Validated.map_andThen,
    Validated.valid_both, Validated.valid_both, Validated.map_map, Validated.map_map]
  rfl

/-- A single number as the value of a test is checked alone. It fits every operator. -/
theorem fitted_scalar (place : Place) (given : Option Operator)
    (first : ∀ entry ∈ front, entry.1 ≠ "value") :
    ∃ fill : Scalar → Operator × FilterValue,
      (∀ scalar, scalarIn? [] (fill scalar).2 = some scalar) ∧
      ∀ value, isNumber value = true →
        fitted place given (filterValue place (front ++ ("value", value) :: back)) =
          (scalar (place ++ [.key "value"]) .notScalarOrList value).map fill := by
  let operator := given.getD .equal
  refine ⟨fun scalar =>
      (operator, if operator.isMembership then .list [scalar] else .scalar scalar),
    fun scalar => ?_, fun value number => ?_⟩
  · dsimp only
    split <;> rfl
  · have single : filterValue place (front ++ ("value", value) :: back) =
        (scalar (place ++ [.key "value"]) .notScalarOrList value).map .scalar := by
      rw [filterValue, lookup_around value first]
      cases value <;> first | rfl | cases number
    rw [single, fitted, Validated.map_andThen]
    exact Validated.andThen_eq_map fun _ => rfl

/-- A number in a list of values is checked alone, once the list fits the operator. -/
theorem fitted_element {place : Place} {given : Option Operator}
    (first : ∀ entry ∈ front, entry.1 ≠ "value") {values others : List Json} {value : Json}
    {parts : Operator × FilterValue}
    (accepted : fitted place given (filterValue place
      (front ++ ("value", .array (values ++ value :: others)) :: back)) = .valid parts) :
    ∃ fill : Scalar → Operator × FilterValue,
      (∀ scalar, scalarIn? [.index values.length] (fill scalar).2 = some scalar) ∧
      ∀ other, fitted place given (filterValue place
          (front ++ ("value", .array (values ++ other :: others)) :: back)) =
        (scalar (place ++ [.key "value", .index values.length]) .notScalar other).map fill := by
  let check (position : Nat) (item : Json) : Validated Scalar :=
    scalar (place ++ [.key "value"] ++ [.index position]) .notScalar item
  let rest := others.mapIdx fun position => check (position + 1 + values.length)
  have listed (other : Json) :
      filterValue place (front ++ ("value", .array (values ++ other :: others)) :: back) =
        (Validated.all (values.mapIdx check ++ check values.length other :: rest)).map .list := by
    rw [filterValue, lookup_around _ first]
    simp [check, rest, List.mapIdx_append, List.mapIdx_cons]
  rw [listed, fitted, Validated.map_andThen, Validated.andThen_eq_valid_iff] at accepted
  obtain ⟨scalars, valid, fits⟩ := accepted
  obtain ⟨before, tail, rfl, checked, valid⟩ :=
    List.map_eq_append_iff.mp ((Validated.all_eq_valid_iff _ _).mp valid).symm
  obtain ⟨inner, after, rfl, _, later⟩ := List.map_eq_cons_iff.mp valid
  let operator := given.getD .among
  have membership : operator.isMembership = true := by
    by_contra other
    have refused : fit place operator (.list (before ++ inner :: after)) =
        .reject (place ++ [.key "value"]) (.listOperand operator.text) := if_neg other
    cases refused.symm.trans fits
  have length : before.length = values.length := by
    simpa using congrArg List.length checked
  refine ⟨fun scalar => (operator, .list (before ++ scalar :: after)), fun scalar => ?_,
    fun other => ?_⟩
  · show (before ++ scalar :: after)[values.length]? = some scalar
    rw [← length]
    simp
  · have element : check values.length other =
        scalar (place ++ [.key "value", .index values.length]) .notScalar other := by
      simp [check]
    rw [listed, ← checked, ← later, Validated.all_around, fitted, Validated.map_andThen,
      Validated.map_andThen, element]
    exact Validated.andThen_eq_map fun scalar => if_pos membership

/-- A node is checked apart from the list of its nested filters. -/
theorem filterNode_around_nested {place : Place} (first : ∀ entry ∈ front, entry.1 ≠ "nested")
    {list : Json} (listed : list.isNull = false) {filter : Filter}
    (accepted : filterNode whitelist place (.object (front ++ ("nested", list) :: back)) =
      .valid filter) :
    ∃ combinator filters, filterList whitelist (place ++ [.key "nested"]) list = .valid filters ∧
      ∀ other : Json, other.isNull = false →
        filterNode whitelist place (.object (front ++ ("nested", other) :: back)) =
          (filterList whitelist (place ++ [.key "nested"]) other).map (.group combinator) := by
  have node (other : Json) (present : other.isNull = false) :
      filterNode whitelist place (.object (front ++ ("nested", other) :: back)) =
        ((combinator place (front ++ back)).both
          ((fieldBeside whitelist place (front ++ back)).both
            (filterList whitelist (place ++ [.key "nested"]) other))).map fun parts =>
          .group parts.1 parts.2.2 := by
    have type : "type" ≠ "nested" := by decide
    have field : "field" ≠ "nested" := by decide
    have found : Json.present? "nested" (front ++ ("nested", other) :: back) = some other :=
      (Json.present?_eq_some_iff _ _ _).mpr ⟨lookup_around _ first back, present⟩
    rw [filterNode, nestedFilters_eq, found]
    simp only [Option.map_some, group, combinator_around type, fieldBeside_around whitelist field]
  rw [node list listed, Validated.map_eq_valid_iff] at accepted
  obtain ⟨⟨type, beside, filters⟩, valid, _⟩ := accepted
  obtain ⟨typed, valid⟩ := (Validated.both_eq_valid_iff _ _ _).mp valid
  obtain ⟨held, inside⟩ := (Validated.both_eq_valid_iff _ _ _).mp valid
  dsimp only at typed held inside
  refine ⟨type, filters, inside, fun other present => ?_⟩
  rw [node other present, typed, held, Validated.valid_both, Validated.valid_both,
    Validated.map_map, Validated.map_map]

end Checks

theorem FilterHole.isNull_eq_false {place : Place} {hole : Json → Json}
    (opens : FilterHole place hole) (value : Json) : (hole value).isNull = false := by
  cases opens <;> rfl

theorem FilterHole.isContainer {place : Place} {hole : Json → Json}
    (opens : FilterHole place hole) (value : Json) : (hole value).isContainer = true := by
  cases opens <;> rfl

/-- The scalar behind the first two steps of a place is in the filter there. -/
theorem scalarAt?_test (before after : List Filter) (combinator : Combinator) (test : FieldTest)
    (place : Place) :
    scalarAt? (.index before.length :: .key "value" :: place)
        (before ++ .test combinator test :: after) = scalarIn? place test.value := by
  simp [scalarAt?]

theorem scalarAt?_group (before after : List Filter) (combinator : Combinator)
    (members : List Filter) (place : Place) :
    scalarAt? (.index before.length :: .key "nested" :: place)
        (before ++ .group combinator members :: after) = scalarAt? place members := by
  simp [scalarAt?]

/-- A filter list with one number open is checked apart from the number, and what comes of
it has the scalar of the number at its place. -/
theorem FilterHole.filterList_eq (whitelist : Whitelist) {place : Place} {hole : Json → Json}
    (opens : FilterHole place hole) {outer : Place} {value : Json} {filters : List Filter}
    (accepted : filterList whitelist outer (hole value) = .valid filters) :
    ∃ (fill : Scalar → List Filter) (otherwise : Reason),
      (∀ scalar, scalarAt? place (fill scalar) = some scalar) ∧
      ∀ other, isNumber other = true →
        filterList whitelist outer (hole other) =
          (Request.scalar (outer ++ place) otherwise other).map fill := by
  induction opens generalizing outer filters with
  | scalar items more first leaf =>
      rw [filterList] at accepted
      obtain ⟨before, filter, after, length, found, around⟩ :=
        filterItems_around whitelist outer 0 accepted
      obtain ⟨combinator, field, given, _, node⟩ := filterNode_around_value whitelist leaf found
      obtain ⟨fill, held, checks⟩ :=
        fitted_scalar (outer ++ [.index (0 + items.length)]) given first
      refine ⟨fun scalar =>
        before ++ .test combinator ⟨field, (fill scalar).1, (fill scalar).2⟩ :: after,
        .notScalarOrList, fun scalar => ?_, fun other number => ?_⟩
      · rw [← length, scalarAt?_test]
        exact held scalar
      · rw [filterList, around, node, checks other number, Validated.map_map, Validated.map_map,
          Nat.zero_add, List.append_assoc]
        rfl
  | element items more first leaf values others =>
      rw [filterList] at accepted
      obtain ⟨before, filter, after, length, found, around⟩ :=
        filterItems_around whitelist outer 0 accepted
      obtain ⟨combinator, field, given, ⟨parts, fits⟩, node⟩ :=
        filterNode_around_value whitelist leaf found
      obtain ⟨fill, held, checks⟩ := fitted_element first fits
      refine ⟨fun scalar =>
        before ++ .test combinator ⟨field, (fill scalar).1, (fill scalar).2⟩ :: after,
        .notScalar, fun scalar => ?_, fun other number => ?_⟩
      · rw [← length, scalarAt?_test]
        exact held scalar
      · rw [filterList, around, node, checks other, Validated.map_map, Validated.map_map,
          Nat.zero_add, List.append_assoc]
        rfl
  | nested items more first back inside ih =>
      rw [filterList] at accepted
      obtain ⟨before, filter, after, length, found, around⟩ :=
        filterItems_around whitelist outer 0 accepted
      obtain ⟨combinator, filters, listed, node⟩ :=
        filterNode_around_nested whitelist first (inside.isNull_eq_false value) found
      obtain ⟨fill, otherwise, held, checks⟩ := ih listed
      refine ⟨fun scalar => before ++ .group combinator (fill scalar) :: after, otherwise,
        fun scalar => ?_, fun other number => ?_⟩
      · rw [← length, scalarAt?_group]
        exact held scalar
      · rw [filterList, around, node _ (inside.isNull_eq_false other), checks other number,
          Validated.map_map, Validated.map_map, Nat.zero_add, List.append_assoc, List.append_assoc]
        rfl

/-! ## Depth with one number open -/

theorem itemsDepth_append (first second : List Json) :
    itemsDepth (first ++ second) = max (itemsDepth first) (itemsDepth second) := by
  induction first with
  | nil => rw [List.nil_append, itemsDepth, Nat.zero_max]
  | cons item items ih => rw [List.cons_append, itemsDepth, itemsDepth, ih, Nat.max_assoc]

theorem fieldsDepth_append (first second : List (String × Json)) :
    fieldsDepth (first ++ second) = max (fieldsDepth first) (fieldsDepth second) := by
  induction first with
  | nil => rw [List.nil_append, fieldsDepth, Nat.zero_max]
  | cons field fields ih =>
      obtain ⟨key, value⟩ := field
      rw [List.cons_append, fieldsDepth, fieldsDepth, ih, Nat.max_assoc]

/-- The depth of a filter list does not depend on the values of its tests. -/
theorem FilterHole.containerDepth_eq {place : Place} {hole : Json → Json}
    (opens : FilterHole place hole) (value other : Json) :
    containerDepth (hole value) = containerDepth (hole other) := by
  have unmeasured (first second : Json) (front back : List (String × Json)) :
      fieldsDepth (front ++ ("value", first) :: back) =
        fieldsDepth (front ++ ("value", second) :: back) := by
    simp [fieldsDepth_append, fieldsDepth]
  induction opens with
  | scalar items more first leaf =>
      simp only [containerDepth, itemsDepth_append, itemsDepth, Json.isContainer,
        unmeasured value other]
  | element items more first leaf values others =>
      simp only [containerDepth, itemsDepth_append, itemsDepth, Json.isContainer,
        unmeasured (.array (values ++ value :: others)) (.array (values ++ other :: others))]
  | @nested items more front first back place hole inside ih =>
      have same : fieldsDepth (front ++ ("nested", hole value) :: back) =
          fieldsDepth (front ++ ("nested", hole other) :: back) := by
        simp only [fieldsDepth_append, fieldsDepth, inside.isContainer value,
          inside.isContainer other, ih]
      simp only [containerDepth, itemsDepth_append, itemsDepth, Json.isContainer, same]

/-! ## Requests with the filters open -/

/-- The fields of a body with the filters open. -/
structure FiltersOpen (fields : Json → List (String × Json)) : Prop where
  filters : ∀ list, (fields list).lookup "filters" = some list
  others : ∀ key, key ≠ "filters" → ∀ list other,
    (fields list).lookup key = (fields other).lookup key

namespace FiltersOpen

variable {fields : Json → List (String × Json)}

theorem present?_filters (opens : FiltersOpen fields) {list : Json}
    (present : list.isNull = false) :
    Json.present? "filters" (fields list) = some list :=
  (Json.present?_eq_some_iff _ _ _).mpr ⟨opens.filters list, present⟩

theorem present?_of_ne (opens : FiltersOpen fields) {key : String} (different : key ≠ "filters")
    (list other : Json) : Json.present? key (fields list) = Json.present? key (fields other) := by
  rw [Json.present?, Json.present?, opens.others key different list other]

/-- The clauses of a body are checked apart from its filters. -/
theorem clauses_eq (opens : FiltersOpen fields) (whitelist : Whitelist) (config : Config)
    {list : Json} (present : list.isNull = false) {query : Query}
    (accepted : clauses whitelist config (fields list) = .valid query) :
    ∃ (fill : List Filter → Query) (filters : List Filter),
      (∀ filters, (fill filters).filters = filters) ∧
      filterList whitelist [.key "filters"] list = .valid filters ∧
      ∀ other, other.isNull = false → clauses whitelist config (fields other) =
        (filterList whitelist [.key "filters"] other).map fill := by
  have apart {α : Type} (key : String) (different : key ≠ "filters") (absent : α)
      (read : Json → Validated α) (other : Json) :
      clause key (fields other) absent read = clause key (fields list) absent read := by
    simp only [clause, opens.present?_of_ne different other list]
  have flags (other : Json) : trashed (fields other) = trashed (fields list) := by
    have withTrashed : "with_trashed" ≠ "filters" := by decide
    have onlyTrashed : "only_trashed" ≠ "filters" := by decide
    simp only [trashed, requestFlag, opens.present?_of_ne withTrashed other list,
      opens.present?_of_ne onlyTrashed other list]
  have filtered (other : Json) (present : other.isNull = false) :
      clause "filters" (fields other) [] (filterList whitelist [.key "filters"]) =
        filterList whitelist [.key "filters"] other := by
    rw [clause, opens.present?_filters present]
  unfold clauses at accepted
  rw [Validated.map_eq_valid_iff, filtered list present] at accepted
  obtain ⟨⟨scopes, filters, search, sorting, visibility⟩, valid, _⟩ := accepted
  obtain ⟨called, valid⟩ := (Validated.both_eq_valid_iff _ _ _).mp valid
  obtain ⟨listed, valid⟩ := (Validated.both_eq_valid_iff _ _ _).mp valid
  obtain ⟨searched, valid⟩ := (Validated.both_eq_valid_iff _ _ _).mp valid
  obtain ⟨sorted, flagged⟩ := (Validated.both_eq_valid_iff _ _ _).mp valid
  dsimp only at called listed searched sorted flagged
  refine ⟨fun filters => ⟨scopes, filters, search, sorting, visibility⟩, filters, fun _ => rfl,
    listed, fun other present => ?_⟩
  unfold clauses
  rw [apart "scopes" (by decide), apart "search" (by decide), apart "sort" (by decide), flags,
    called, searched, sorted, flagged, filtered other present]
  show ((Validated.valid scopes).both ((filterList whitelist [.key "filters"] other).both
    (.valid (search, sorting, visibility)))).map _ = _
  rw [Validated.both_valid, Validated.valid_both, Validated.map_map, Validated.map_map]

/-- A request is read apart from its filters, once these are not nested more deeply. -/
theorem parse_eq (opens : FiltersOpen fields) (whitelist : Whitelist) (config : Config)
    {list : Json} (present : list.isNull = false) {query : Query}
    (accepted : parse whitelist config (.object (fields list)) = .ok query) :
    ∃ (fill : List Filter → Query) (filters : List Filter),
      (∀ filters, (fill filters).filters = filters) ∧
      filterList whitelist [.key "filters"] list = .valid filters ∧
      ∀ other, other.isNull = false → containerDepth other = containerDepth list →
        parse whitelist config (.object (fields other)) =
          accept ((filterList whitelist [.key "filters"] other).map fill) := by
  have guard (other : Json) (present : other.isNull = false) :
      guardDepth config (fields other) = checkFilterDepth other config.maxNestedDepth := by
    rw [guardDepth, opens.present?_filters present]
  rw [parse, guard list present, Success.bind_eq_ok_iff] at accepted
  obtain ⟨_, shallow, accepted⟩ := accepted
  obtain ⟨fill, filters, filled, listed, checks⟩ :=
    opens.clauses_eq whitelist config present ((accept_eq_ok_iff _ _).mp accepted)
  refine ⟨fill, filters, filled, listed, fun other present depth => ?_⟩
  have same : checkFilterDepth other config.maxNestedDepth =
      checkFilterDepth list config.maxNestedDepth := by
    rw [checkFilterDepth, checkFilterDepth, filterDepth, filterDepth, depth]
  rw [parse, guard other present, same, shallow, checks other present]
  rfl

end FiltersOpen

/-! ## Parameters with one literal open -/

namespace ListParameters

/-- The parameters with a text of filters. -/
def withFilters (parameters : ListParameters) (text : List Char) : ListParameters :=
  { parameters with filters := some (String.ofList text) }

/-- The query that parameters ask for. -/
def decode (whitelist : Whitelist) (config : Config) (parameters : ListParameters) :
    Except Failure Query := do
  let body ← parameters.toRequest
  parse whitelist config body

/-- The body that parameters make has the filters that their text spells, and nothing else
of it depends on them. -/
theorem toRequest_withFilters {parameters : ListParameters} {text : List Char} {body : Json}
    (made : (parameters.withFilters text).toRequest = .ok body) :
    ∃ fields, FiltersOpen fields ∧
      (∃ filters, Json.read? (String.ofList text) = some filters ∧
        body = .object (fields filters)) ∧
      ∀ other, (parameters.withFilters other).toRequest =
        match Json.read? (String.ofList other) with
        | some filters => .ok (.object (fields filters))
        | none => .error (.invalid [⟨[.key "filters"], .notJson "filters"⟩]) := by
  unfold toRequest withFilters at made
  dsimp only at made
  split at made
  · cases made
  · next scopes filters search sort valid =>
      obtain ⟨called, valid⟩ := (Validated.both_eq_valid_iff _ _ _).mp valid
      obtain ⟨filtered, valid⟩ := (Validated.both_eq_valid_iff _ _ _).mp valid
      obtain ⟨searched, sorted⟩ := (Validated.both_eq_valid_iff _ _ _).mp valid
      dsimp only at called filtered searched sorted
      obtain ⟨json, found, rfl⟩ := (Validated.map_eq_valid_iff _ _ _).mp filtered
      let rest := insert? "search" search (insert? "sort" sort
        (insert? "with_trashed" (parameters.withTrashed.map Json.text)
          (insert? "only_trashed" (parameters.onlyTrashed.map Json.text)
            (insert? "limit" (parameters.limit.map fun value => .int value.toInt)
              (insert? "page" (parameters.page.map fun value => .int value.toInt) [])))))
      refine ⟨fun filters => insert? "scopes" scopes (Keyed.insert "filters" filters rest),
        ⟨fun filters => ?_, fun key different filters others => ?_⟩,
        ⟨json, (Validated.ofOption_eq_valid_iff _ _ _ _).mp found, (Except.ok.inj made).symm⟩,
        fun other => ?_⟩
      · rw [lookup_insert?_of_ne (by decide), Keyed.lookup_insert_self]
      · refine lookup_insert?_congr scopes ?_
        rw [Keyed.lookup_insert_of_ne _ _ different, Keyed.lookup_insert_of_ne _ _ different]
      · unfold toRequest withFilters
        dsimp only
        rw [called, searched, sorted, clause]
        cases Json.read? (String.ofList other) <;> rfl

/-- Parameters with a literal in their filters are decoded apart from the literal: they
are refused when nothing is read for it, and otherwise its value is checked at its place
and put into the query. -/
theorem decode_around (whitelist : Whitelist) (config : Config) (parameters : ListParameters)
    {before after : List Char} {hole : Json → Json} (surrounds : Json.Surrounds before after hole)
    {place : Place} (opens : FilterHole place hole) {sample : IntegerLiteral} {query : Query}
    (accepted : (parameters.withFilters (before ++ sample.text ++ after)).decode whitelist config =
      .ok query) :
    ∃ (fill : Scalar → Query) (otherwise : Reason),
      (∀ scalar, scalarAt? place (fill scalar).filters = some scalar) ∧
      ∀ literal : IntegerLiteral,
        (parameters.withFilters (before ++ literal.text ++ after)).decode whitelist config =
          match literal.json? with
          | some value => accept ((scalar (.key "filters" :: place) otherwise value).map fill)
          | none => .error (.invalid [⟨[.key "filters"], .notJson "filters"⟩]) := by
  obtain ⟨body, made, parsed⟩ := (Success.bind_eq_ok_iff _ _ _).mp accepted
  obtain ⟨fields, filtersOpen, ⟨list, read, rfl⟩, makes⟩ := toRequest_withFilters made
  rw [surrounds.read?_eq sample, Option.map_eq_some_iff] at read
  obtain ⟨value, _, rfl⟩ := read
  obtain ⟨ofFilters, filters, kept, listed, parses⟩ :=
    filtersOpen.parse_eq whitelist config (opens.isNull_eq_false value) parsed
  obtain ⟨fill, otherwise, held, checks⟩ := opens.filterList_eq whitelist listed
  refine ⟨fun scalar => ofFilters (fill scalar), otherwise, fun scalar => ?_, fun literal => ?_⟩
  · rw [kept]
    exact held scalar
  · rw [decode, makes, surrounds.read?_eq literal]
    cases found : literal.json? with
    | none => rfl
    | some other =>
        have number : isNumber other = true := isNumber_of_json? found
        have parsed := parses (hole other) (opens.isNull_eq_false other)
          (opens.containerDepth_eq other value)
        refine parsed.trans ?_
        rw [checks other number, Validated.map_map]
        rfl

/-- In parameters that are valid with some integer literal as the value of a test or in a
list of values, every integer literal in that place comes to what its number is. An
integer in the signed 64-bit words is in the query as exactly that integer. One beyond
them is out of range as long as it fits an unsigned word. Every other one, and minus zero,
is in the query as the double that its digits are scaled to; where that is too large, the
filters are not JSON. -/
theorem decode_integer (whitelist : Whitelist) (config : Config) (parameters : ListParameters)
    {before after : List Char} {hole : Json → Json} (surrounds : Json.Surrounds before after hole)
    {place : Place} (opens : FilterHole place hole) {sample : IntegerLiteral} {query : Query}
    (accepted : (parameters.withFilters (before ++ sample.text ++ after)).decode whitelist config =
      .ok query) :
    ∃ fill : Scalar → Query,
      (∀ scalar, scalarAt? place (fill scalar).filters = some scalar) ∧
      ∀ literal : IntegerLiteral,
        (-2 ^ 63 ≤ literal.value → literal.value < 2 ^ 63 → ¬ literal.IsMinusZero →
          ∃ word : Int64, word.toInt = literal.value ∧
            (parameters.withFilters (before ++ literal.text ++ after)).decode whitelist config =
              .ok (fill (.int word))) ∧
        (2 ^ 63 ≤ literal.value → literal.value < 2 ^ 64 →
          (parameters.withFilters (before ++ literal.text ++ after)).decode whitelist config =
            .error (.invalid [⟨.key "filters" :: place, .outOfRange⟩])) ∧
        (literal.value < -2 ^ 63 ∨ 2 ^ 64 ≤ literal.value ∨ literal.IsMinusZero →
          (parameters.withFilters (before ++ literal.text ++ after)).decode whitelist config =
            match literal.float? with
            | some value => .ok (fill (.float value))
            | none => .error (.invalid [⟨[.key "filters"], .notJson "filters"⟩])) := by
  obtain ⟨fill, otherwise, held, decodes⟩ :=
    decode_around whitelist config parameters surrounds opens accepted
  refine ⟨fill, held, fun literal => ⟨?_, ?_, ?_⟩⟩
  · intro least below signed
    obtain ⟨word, made, same⟩ := Number.exists_int64 least below
    have read : literal.json? = some (.int literal.value) :=
      if_pos ⟨least, by omega, signed⟩
    refine ⟨word, same, ?_⟩
    rw [decodes, read]
    simp only [scalar, Scalar.ofJson?, made]
    rfl
  · intro beyond below
    have signed : ¬ literal.IsMinusZero := by
      rintro ⟨_, zero⟩
      omega
    have read : literal.json? = some (.int literal.value) :=
      if_pos ⟨by omega, below, signed⟩
    have none := (Number.int64?_eq_none_iff literal.value).mpr (by omega)
    rw [decodes, read]
    simp only [scalar, Scalar.ofJson?, none]
    rfl
  · intro outside
    have read : literal.json? = literal.float?.map .float := by
      refine if_neg ?_
      rintro ⟨least, below, signed⟩
      rcases outside with low | high | minusZero
      · omega
      · omega
      · exact signed minusZero
    rw [decodes, read]
    cases literal.float? <;> rfl

/-- A filter list with one test of a priority, up to its value. -/
def priorityBefore : List Char :=
  "[\x7b\"field\":\"priority\",\"value\":".toList

/-- What stands behind the value of the test. -/
def priorityAfter : List Char :=
  "\x7d]".toList

/-- The filter list around the value. -/
def priorityList (value : Json) : Json :=
  .array [.object [("field", .text "priority"), ("value", value)]]

theorem surrounds_priority : Json.Surrounds priorityBefore priorityAfter priorityList where
  ends := by
    intro character first
    cases first
    rfl
  reads := ⟨_, _, rfl, rfl, fun _ => rfl⟩

theorem filterHole_priority : FilterHole [.index 0, .key "value"] priorityList :=
  @FilterHole.scalar [] [] [("field", .text "priority")] (by simp) [] rfl

/-- The literal zero. -/
def zeroLiteral : IntegerLiteral where
  negative := false
  digits := ['0']
  nonempty := by decide
  decimal := List.all_eq_true.mp (by decide)
  plain := by decide

/-- The literal of the greatest signed word. -/
def greatestLiteral : IntegerLiteral where
  negative := false
  digits := "9223372036854775807".toList
  nonempty := by decide
  decimal := List.all_eq_true.mp (by decide)
  plain := by decide

/-- The literal of the least integer above the unsigned words. -/
def beyondLiteral : IntegerLiteral where
  negative := false
  digits := "18446744073709551616".toList
  nonempty := by decide
  decimal := List.all_eq_true.mp (by decide)
  plain := by decide

/-- The outcome of a list with the given text as the priority that is asked for. -/
def decodePriority (text : List Char) : Except Failure Query :=
  (({} : ListParameters).withFilters (priorityBefore ++ text ++ priorityAfter)).decode
    { filterable := ["priority"] } {}

theorem exists_decodePriority_zero : ∃ query, decodePriority zeroLiteral.text = .ok query := by
  have accepted : (decodePriority zeroLiteral.text).isOk = true := by decide +kernel
  cases made : decodePriority zeroLiteral.text with
  | ok query => exact ⟨query, rfl⟩
  | error failure =>
      rw [made] at accepted
      cases accepted

/-- The greatest signed word is asked for as it is. -/
theorem decode_integer_greatest :
    ∃ query word, decodePriority greatestLiteral.text = .ok query ∧
      scalarAt? [.index 0, .key "value"] query.filters = some (.int word) ∧
      word.toInt = 9223372036854775807 := by
  obtain ⟨query, accepted⟩ := exists_decodePriority_zero
  obtain ⟨fill, held, decodes⟩ :=
    decode_integer _ _ _ surrounds_priority filterHole_priority accepted
  obtain ⟨word, same, made⟩ :=
    (decodes greatestLiteral).1 (by decide) (by decide) (by decide)
  exact ⟨_, word, made, held _, same⟩

/-- An integer above the unsigned words is not refused, but asked for as a double. -/
theorem decodePriority_rounds :
    beyondLiteral.value = 2 ^ 64 ∧
      ∃ query value, decodePriority beyondLiteral.text = .ok query ∧
        scalarAt? [.index 0, .key "value"] query.filters = some (.float value) := by
  obtain ⟨query, accepted⟩ := exists_decodePriority_zero
  obtain ⟨fill, otherwise, held, decodes⟩ :=
    decode_around _ _ _ surrounds_priority filterHole_priority accepted
  have finite : beyondLiteral.float?.isSome = true := by decide +kernel
  obtain ⟨value, double⟩ := Option.isSome_iff_exists.mp finite
  have read : beyondLiteral.json? = some (.float value) := by
    rw [IntegerLiteral.json?, if_neg (by decide), double]
    rfl
  have made := decodes beyondLiteral
  rw [read] at made
  exact ⟨by decide, _, value, made, held _⟩

end ListParameters

end QueryGate.Request
