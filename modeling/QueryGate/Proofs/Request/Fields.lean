import QueryGate.Proofs.Filter.Reading
import QueryGate.Proofs.Request.Acceptance

/-!
# The fields that a request names

Every test of a parsed query, however deep it lies, has its field from a node of the
body, and every order has its field from an entry of the body. Each of these names is
legal and admitted by the whitelist (`tests_of_parse`, `orders_of_parse`), as is the name
of every scope that is called (`scopes_of_parse`). The operator of a test takes its value
(`takes_of_parse`).
-/

set_option autoImplicit false

namespace QueryGate.Request

/-- The node, or one nested in it, names the field. -/
inductive NodeField : Json → String → Prop where
  | here {fields : List (String × Json)} {name : String} :
      Json.present? "field" fields = some (.text name) → NodeField (.object fields) name
  | nested {fields : List (String × Json)} {items : List Json} {item : Json} {name : String} :
      Json.present? "nested" fields = some (.array items) → item ∈ items →
      NodeField item name → NodeField (.object fields) name

/-- Some node of the body's filters names the field. -/
def FilterField (body : Json) (name : String) : Prop :=
  ∃ fields items item, body = .object fields ∧
    Json.present? "filters" fields = some (.array items) ∧ item ∈ items ∧ NodeField item name

/-- Some entry of the body's orders names the field. -/
def SortField (body : Json) (name : String) : Prop :=
  ∃ fields items entry, body = .object fields ∧
    Json.present? "sort" fields = some (.array items) ∧ .object entry ∈ items ∧
    Json.present? "field" entry = some (.text name)

/-- A name that occurs, is legal and is admitted. -/
structure AdmittedName (occurs : String → Prop) (admits : String → Bool) (name : String) :
    Prop where
  occurs : occurs name
  legal : LegalName name
  admitted : admits name = true

theorem AdmittedName.mono {occurs others : String → Prop} {admits : String → Bool} {name : String}
    (wider : ∀ name, occurs name → others name) (named : AdmittedName occurs admits name) :
    AdmittedName others admits name :=
  ⟨wider name named.occurs, named.legal, named.admitted⟩

/-- Each value of a spelled list is spelled by an item. -/
theorem exists_item_of_forall₂ {α β : Type} {spells : β → α → Prop} {items : List β}
    {values : List α} (each : List.Forall₂ spells items values) {value : α}
    (member : value ∈ values) : ∃ item ∈ items, spells item value := by
  induction each with
  | nil => exact absurd member List.not_mem_nil
  | cons here _ ih =>
      rcases List.mem_cons.mp member with rfl | later
      · exact ⟨_, List.mem_cons_self, here⟩
      · obtain ⟨item, among, spelled⟩ := ih later
        exact ⟨item, List.mem_cons_of_mem _ among, spelled⟩

variable {whitelist : Whitelist}

/-- The value that an operator is given fits it as the operator takes it. -/
theorem takes_adapted {operator : Operator} {given : FilterValue} (takes : Takes operator given) :
    Takes operator (adapted operator given) := by
  cases given with
  | null => exact takes
  | list scalars => exact takes
  | scalar scalar =>
      rw [adapted]
      split
      · next membership => exact membership
      · exact trivial

/-- A test of an admitted field, with an operator that takes its value. -/
structure AdmittedTest (occurs : String → Prop) (whitelist : Whitelist) (fieldTest : FieldTest) :
    Prop where
  named : AdmittedName occurs whitelist.canFilter fieldTest.field
  takes : Takes fieldTest.operator fieldTest.value

mutual

/-- The tests of a spelled filter name fields of its node. -/
theorem SpellsFilter.tests : ∀ {json : Json} {filter : Filter},
    SpellsFilter whitelist json filter → ∀ fieldTest ∈ filter.tests,
      AdmittedTest (NodeField json) whitelist fieldTest
  | _, _, .group _ _ nested spelled => by
      intro fieldTest member
      rw [Filter.tests] at member
      obtain ⟨item, among, test⟩ := spelled.tests fieldTest member
      exact ⟨test.named.mono fun _ occurs => .nested nested among occurs, test.takes⟩
  | _, _, .test _ field _ compared => by
      intro fieldTest member
      rw [Filter.tests, List.mem_singleton] at member
      obtain ⟨_, found, rfl, legal, admitted⟩ := field
      obtain ⟨given, _, _, takes, rfl⟩ := compared
      cases member
      exact ⟨⟨.here found, legal, admitted⟩, takes_adapted takes⟩

/-- The tests of spelled filters name fields of their nodes. -/
theorem SpellsFilters.tests : ∀ {items : List Json} {filters : List Filter},
    SpellsFilters whitelist items filters → ∀ fieldTest ∈ Filter.listTests filters,
      ∃ item ∈ items, AdmittedTest (NodeField item) whitelist fieldTest
  | _, _, .nil => fun _ impossible => absurd impossible List.not_mem_nil
  | _, _, .cons here there => by
      intro fieldTest member
      rw [Filter.listTests] at member
      rcases List.mem_append.mp member with first | later
      · exact ⟨_, List.mem_cons_self, here.tests fieldTest first⟩
      · obtain ⟨item, among, test⟩ := there.tests fieldTest later
        exact ⟨item, List.mem_cons_of_mem _ among, test⟩

end

variable {config : Config} {body : Json} {query : Query}

theorem admittedTests_of_parse (parsed : parse whitelist config body = .ok query) :
    ∀ fieldTest ∈ Filter.listTests query.filters,
      AdmittedTest (FilterField body) whitelist fieldTest := by
  intro fieldTest member
  obtain ⟨_, spelled⟩ := (parse_eq_ok_iff whitelist config body query).mp parsed
  cases spelled with
  | empty => exact absurd member List.not_mem_nil
  | object request =>
      have filters := request.filters
      unfold Reads at filters
      split at filters
      · rw [filters] at member
        exact absurd member List.not_mem_nil
      · next found =>
          obtain ⟨items, rfl, each⟩ := filters
          obtain ⟨item, among, test⟩ := each.tests fieldTest member
          exact ⟨test.named.mono fun _ occurs => ⟨_, items, item, rfl, found, among, occurs⟩,
            test.takes⟩

/-- The tests of a parsed query name fields of the body's filters. -/
theorem tests_of_parse (parsed : parse whitelist config body = .ok query) :
    ∀ fieldTest ∈ Filter.listTests query.filters,
      AdmittedName (FilterField body) whitelist.canFilter fieldTest.field :=
  fun fieldTest member => (admittedTests_of_parse parsed fieldTest member).named

/-- The operators of the tests of a parsed query take their values. -/
theorem takes_of_parse (parsed : parse whitelist config body = .ok query) :
    ∀ fieldTest ∈ Filter.listTests query.filters, Takes fieldTest.operator fieldTest.value :=
  fun fieldTest member => (admittedTests_of_parse parsed fieldTest member).takes

/-- The scopes of a parsed query are exposed. -/
theorem scopes_of_parse (parsed : parse whitelist config body = .ok query) :
    ∀ call ∈ query.scopes, whitelist.exposesScope call.name = true := by
  intro call member
  obtain ⟨_, spelled⟩ := (parse_eq_ok_iff whitelist config body query).mp parsed
  cases spelled with
  | empty => exact absurd member List.not_mem_nil
  | object request =>
      have scopes := request.scopes
      unfold Reads at scopes
      split at scopes
      · rw [scopes] at member
        exact absurd member List.not_mem_nil
      · obtain ⟨items, rfl, each⟩ := scopes
        obtain ⟨_, _, fields, rfl, spelled⟩ := exists_item_of_forall₂ each member
        exact spelled.exposed

/-- The orders of a parsed query name fields of the body's entries. -/
theorem orders_of_parse (parsed : parse whitelist config body = .ok query) :
    ∀ order ∈ query.sorting, AdmittedName (SortField body) whitelist.canSort order.field := by
  intro order member
  obtain ⟨_, spelled⟩ := (parse_eq_ok_iff whitelist config body query).mp parsed
  cases spelled with
  | empty => exact absurd member List.not_mem_nil
  | object request =>
      have sorting := request.sorting
      unfold Reads at sorting
      split at sorting
      · rw [sorting] at member
        exact absurd member List.not_mem_nil
      · next found =>
          obtain ⟨items, rfl, each⟩ := sorting
          obtain ⟨_, among, fields, rfl, spelled⟩ := exists_item_of_forall₂ each member
          obtain ⟨_, named, rfl, legal, admitted⟩ := spelled.field
          exact ⟨⟨_, items, fields, rfl, found, among, named⟩, legal, admitted⟩

end QueryGate.Request
