import QueryGate.Proofs.Request.Fields

/-!
# The leaves of a body

The nodes of a body's filters that test a field, in the order of the document, and the values
that each of them gives. Parsing neither drops a leaf nor adds or moves one: the tests of the
query are those that the leaves ask for, one by one (`leaves_of_parse`).
-/

set_option autoImplicit false

namespace QueryGate

/-- The scalars that a test compares with. -/
def FilterValue.scalars : FilterValue → List Scalar
  | null => []
  | scalar value => [value]
  | list values => values

namespace Request

/-! ## Leaves -/

mutual

/-- The leaves of a node, each given by its fields: those of its nested nodes, if it has any,
and otherwise the node itself. -/
def nodeLeaves : Json → List (List (String × Json))
  | .object fields =>
      match nestedLeaves fields with
      | some leaves => leaves
      | none => [fields]
  | _ => []

/-- The leaves of the nodes of a list, one after another. -/
def listLeaves : Json → List (List (String × Json))
  | .array items => itemLeaves items
  | _ => []

/-- The leaves of nodes, one after another. -/
def itemLeaves : List Json → List (List (String × Json))
  | [] => []
  | item :: items => nodeLeaves item ++ itemLeaves items

/-- The leaves of the nested nodes, when there are any. -/
def nestedLeaves : List (String × Json) → Option (List (List (String × Json)))
  | [] => none
  | (key, value) :: fields =>
      if key = "nested" then if value.isNull then none else some (listLeaves value)
      else nestedLeaves fields

end

/-- The leaves of a body's filters. -/
def bodyLeaves : Json → List (List (String × Json))
  | .object fields => (Json.present? "filters" fields).elim [] listLeaves
  | _ => []

/-- The values that a leaf gives: the items of an array, or the one value. -/
def operands (leaf : List (String × Json)) : List Json :=
  match Json.present? "value" leaf with
  | none => []
  | some (.array items) => items
  | some value => [value]

/-- The leaves of the nested nodes are those under the key. -/
theorem nestedLeaves_eq (fields : List (String × Json)) :
    nestedLeaves fields = (Json.present? "nested" fields).map listLeaves := by
  induction fields with
  | nil => rw [nestedLeaves]; rfl
  | cons entry fields ih =>
      obtain ⟨key, value⟩ := entry
      rw [nestedLeaves]
      by_cases same : key = "nested"
      · rw [if_pos same, same]
        cases value <;> rfl
      · rw [if_neg same, ih, present?_cons_of_ne same]

/-! ## Tests -/

/-- The leaf asks for the test: of its field, with its operator or the one that stands for an
absent one, and with the scalars that its values are, in their order. -/
structure LeafAsks (leaf : List (String × Json)) (fieldTest : FieldTest) : Prop where
  field : Json.present? "field" leaf = some (.text fieldTest.field)
  operator : ∃ given, SpellsValue leaf given ∧
    Reads "operator" leaf (defaultOperator given) SpellsOperator fieldTest.operator
  takes : Takes fieldTest.operator fieldTest.value
  scalars : (operands leaf).map Scalar.ofJson? = fieldTest.value.scalars.map some

/-- Adapting a value to an operator keeps its scalars. -/
theorem scalars_adapted (operator : Operator) (given : FilterValue) :
    (adapted operator given).scalars = given.scalars := by
  cases given with
  | null => rfl
  | scalar scalar =>
      rw [adapted]
      split <;> rfl
  | list scalars => rfl

/-- The scalars of a spelled value are those of the given values. -/
theorem SpellsValue.scalars {leaf : List (String × Json)} {given : FilterValue}
    (spelled : SpellsValue leaf given) :
    (operands leaf).map Scalar.ofJson? = given.scalars.map some := by
  unfold operands
  cases spelled with
  | missing absent =>
      rw [absent]
      rfl
  | scalar found read =>
      rw [found]
      split
      · next impossible => cases impossible
      · next items same =>
          cases same
          cases read
      · next value _ same =>
          cases same
          exact congrArg (fun scalar => [scalar]) read
  | @list _ given found read =>
      obtain ⟨items, rfl, each⟩ := read
      have same : List.Forall₂ Eq (items.map Scalar.ofJson?) (given.map some) := by
        rw [List.forall₂_map_left_iff, List.forall₂_map_right_iff]
        exact each
      rw [found]
      rwa [List.forall₂_eq_eq_eq] at same

variable {whitelist : Whitelist}

mutual

/-- The tests of a spelled filter are those that the leaves of its node ask for. -/
theorem SpellsFilter.leaves : ∀ {json : Json} {filter : Filter},
    SpellsFilter whitelist json filter → List.Forall₂ LeafAsks (nodeLeaves json) filter.tests
  | _, _, .group _ _ nested spelled => by
      rw [nodeLeaves, nestedLeaves_eq, nested, Filter.tests]
      exact spelled.leaves
  | _, _, .test _ field absent compared => by
      obtain ⟨_, found, rfl, _⟩ := field
      obtain ⟨given, value, operator, takes, rfl⟩ := compared
      rw [nodeLeaves, nestedLeaves_eq, absent, Filter.tests]
      refine .cons ⟨found, ⟨given, value, operator⟩, takes_adapted takes, ?_⟩ .nil
      rw [scalars_adapted]
      exact value.scalars

/-- The tests of spelled filters are those that the leaves of their nodes ask for. -/
theorem SpellsFilters.leaves : ∀ {items : List Json} {filters : List Filter},
    SpellsFilters whitelist items filters →
      List.Forall₂ LeafAsks (itemLeaves items) (Filter.listTests filters)
  | _, _, .nil => by
      rw [itemLeaves, Filter.listTests]
      exact .nil
  | _, _, .cons here there => by
      rw [itemLeaves, Filter.listTests]
      exact List.rel_append here.leaves there.leaves

end

/-- The tests of a parsed query are those that the leaves of the body ask for, one by one. -/
theorem leaves_of_parse {config : Config} {body : Json} {query : Query}
    (parsed : parse whitelist config body = .ok query) :
    List.Forall₂ LeafAsks (bodyLeaves body) (Filter.listTests query.filters) := by
  obtain ⟨_, spelled⟩ := (parse_eq_ok_iff whitelist config body query).mp parsed
  cases spelled with
  | empty => exact .nil
  | object request =>
      have filters := request.filters
      unfold Reads at filters
      rw [bodyLeaves]
      split at filters
      · next absent =>
          rw [absent, filters]
          exact .nil
      · next found =>
          obtain ⟨items, rfl, each⟩ := filters
          rw [found]
          exact each.leaves

end Request

end QueryGate
