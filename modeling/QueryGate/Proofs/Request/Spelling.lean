import Mathlib.Data.List.Forall2
import QueryGate.Proofs.Request.Grammar

/-!
# What requests spell

What a body of the grammar asks for, node by node and entry by entry: a query spells
the body when each part of it is what the part of the body under the key says, and
each list holds one member for each item, in the same order. Nothing of a body is
left out, and nothing is added but the values that stand for absent keys.

Whatever spells something is in the grammar, and everything in the grammar spells
something (`isFilter_iff`, `isRequest_iff`, `isBody_iff`).
-/

set_option autoImplicit false

namespace QueryGate.Request

variable {α : Type} {key : String} {fields : List (String × Json)}

/-! ## Keys and lists -/

/-- What stands under the key spells the value, and where nothing does the value is
the one for absent keys. -/
def Reads (key : String) (fields : List (String × Json)) (absent : α)
    (spells : Json → α → Prop) (value : α) : Prop :=
  match Json.present? key fields with
  | none => value = absent
  | some json => spells json value

theorem exists_reads_iff (absent : α) (spells : Json → α → Prop) :
    (∃ value, Reads key fields absent spells value) ↔
      AbsentOr key fields fun json => ∃ value, spells json value := by
  unfold Reads AbsentOr
  cases Json.present? key fields with
  | none => exact ⟨fun _ _ impossible => (nomatch impossible), fun _ => ⟨absent, rfl⟩⟩
  | some json =>
      constructor
      · intro found other same
        cases same
        exact found
      · intro found
        exact found json rfl

theorem AbsentOr.congr {first second : Json → Prop} (same : ∀ json, first json ↔ second json) :
    AbsentOr key fields first ↔ AbsentOr key fields second :=
  forall_congr' fun json => imp_congr_right fun _ => same json

/-- A list of which every item spells a value spells the list of these values. -/
theorem exists_forall₂_iff (spells : Json → α → Prop) (items : List Json) :
    (∃ values, List.Forall₂ spells items values) ↔ ∀ item ∈ items, ∃ value, spells item value := by
  induction items with
  | nil => exact ⟨fun _ _ impossible => absurd impossible List.not_mem_nil, fun _ => ⟨[], .nil⟩⟩
  | cons item items ih =>
      rw [List.forall_mem_cons, ← ih]
      constructor
      · rintro ⟨values, spelled⟩
        cases spelled with
        | cons here there => exact ⟨⟨_, here⟩, ⟨_, there⟩⟩
      · rintro ⟨⟨value, here⟩, ⟨values, there⟩⟩
        exact ⟨value :: values, .cons here there⟩

/-! ## Filters -/

/-- The word for a combinator. -/
def SpellsCombinator (json : Json) (combinator : Combinator) : Prop :=
  json = .text combinator.text

/-- The legal name of a field that is admitted. -/
def SpellsName (admits : String → Bool) (json : Json) (name : String) : Prop :=
  json = .text name ∧ LegalName name ∧ admits name = true

/-- A list of scalars. -/
def SpellsScalars (json : Json) (scalars : List Scalar) : Prop :=
  ∃ items, json = .array items ∧
    List.Forall₂ (fun item scalar => Scalar.ofJson? item = some scalar) items scalars

/-- The value of a node. -/
inductive SpellsValue (fields : List (String × Json)) : FilterValue → Prop where
  | missing : Json.present? "value" fields = none → SpellsValue fields .null
  | scalar {json : Json} {scalar : Scalar} :
      Json.present? "value" fields = some json → Scalar.ofJson? json = some scalar →
      SpellsValue fields (.scalar scalar)
  | list {json : Json} {scalars : List Scalar} :
      Json.present? "value" fields = some json → SpellsScalars json scalars →
      SpellsValue fields (.list scalars)

/-- The spelling of an operator. -/
def SpellsOperator (json : Json) (operator : Operator) : Prop :=
  json = .text operator.text

/-- Whether the operator takes the value. -/
def Takes (operator : Operator) : FilterValue → Prop
  | .null => operator.takesNull = true
  | .list _ => operator.isMembership = true
  | .scalar _ => True

/-- The value as the operator takes it: a scalar becomes a list of one where a list
is asked for. -/
def adapted (operator : Operator) : FilterValue → FilterValue
  | .scalar scalar => if operator.isMembership then .list [scalar] else .scalar scalar
  | value => value

/-- The operator and the value of a node. -/
def SpellsComparison (fields : List (String × Json)) (operator : Operator) (value : FilterValue) :
    Prop :=
  ∃ given, SpellsValue fields given ∧
    Reads "operator" fields (defaultOperator given) SpellsOperator operator ∧
    Takes operator given ∧ value = adapted operator given

mutual

/-- A node spells a group with a member for each nested node, or the test of its
field. -/
inductive SpellsFilter (whitelist : Whitelist) : Json → Filter → Prop where
  | group {fields : List (String × Json)} {items : List Json} {combinator : Combinator}
      {members : List Filter} :
      Reads "type" fields .and SpellsCombinator combinator →
      AbsentOr "field" fields (IsName whitelist.canFilter) →
      Json.present? "nested" fields = some (.array items) →
      SpellsFilters whitelist items members →
      SpellsFilter whitelist (.object fields) (.group combinator members)
  | test {fields : List (String × Json)} {combinator : Combinator} {name : String}
      {operator : Operator} {value : FilterValue} :
      Reads "type" fields .and SpellsCombinator combinator →
      Given "field" fields (fun json => SpellsName whitelist.canFilter json name) →
      Json.present? "nested" fields = none →
      SpellsComparison fields operator value →
      SpellsFilter whitelist (.object fields) (.test combinator ⟨name, operator, value⟩)

/-- The nodes of a list spell filters one by one. -/
inductive SpellsFilters (whitelist : Whitelist) : List Json → List Filter → Prop where
  | nil : SpellsFilters whitelist [] []
  | cons {item : Json} {items : List Json} {filter : Filter} {filters : List Filter} :
      SpellsFilter whitelist item filter → SpellsFilters whitelist items filters →
      SpellsFilters whitelist (item :: items) (filter :: filters)

end

/-- A filter list. -/
def SpellsFilterList (whitelist : Whitelist) (json : Json) (filters : List Filter) : Prop :=
  ∃ items, json = .array items ∧ SpellsFilters whitelist items filters

/-! ## The other clauses -/

/-- A list of objects, one for each entry. -/
def SpellsEntries (spells : List (String × Json) → α → Prop) (json : Json) (entries : List α) :
    Prop :=
  ∃ items, json = .array items ∧
    List.Forall₂ (fun item entry => ∃ fields, item = .object fields ∧ spells fields entry) items
      entries

/-- A scope call: its name, and its parameters as they are. -/
structure SpellsScope (whitelist : Whitelist) (fields : List (String × Json)) (call : ScopeCall) :
    Prop where
  name : Json.present? "name" fields = some (.text call.name)
  exposed : whitelist.exposesScope call.name = true
  parameters : Reads "parameters" fields [] (fun json items => json = .array items) call.parameters

/-- The word for a direction, in any case. -/
def SpellsDirection (json : Json) (direction : Sql.Direction) : Prop :=
  ∃ word, json = .text word ∧ lowered word = direction.text

/-- An order by a field. -/
structure SpellsOrder (whitelist : Whitelist) (fields : List (String × Json)) (order : SortKey) :
    Prop where
  field : Given "field" fields fun json => SpellsName whitelist.canSort json order.field
  direction : Reads "direction" fields .ascending SpellsDirection order.direction

/-- The term of a text, if it is not empty. -/
def searchTerm? (caseSensitive : Bool) (text : Option String) : Option SearchTerm :=
  (text.filter fun text => text ≠ "").map fun text => ⟨text, caseSensitive⟩

/-- A search, with the configured regard of case where the body does not say. -/
def SpellsSearch (config : Config) (json : Json) (term : Option SearchTerm) : Prop :=
  ∃ fields caseSensitive text, json = .object fields ∧
    Reads "case_sensitive" fields config.caseSensitiveSearch SpellsFlag caseSensitive ∧
    Reads "value" fields none (fun json text => ∃ value, json = .text value ∧ text = some value)
      text ∧
    term = searchTerm? caseSensitive text

/-- The visibility of deleted rows, off where the flags are absent. -/
def SpellsTrashed (fields : List (String × Json)) (trashed : Trashed) : Prop :=
  ∃ withTrashed onlyTrashed, Reads "with_trashed" fields false SpellsFlag withTrashed ∧
    Reads "only_trashed" fields false SpellsFlag onlyTrashed ∧
    trashed = Trashed.ofFlags withTrashed onlyTrashed

/-! ## Bodies -/

/-- The fields of a body spell the query, clause by clause. -/
structure SpellsRequest (whitelist : Whitelist) (config : Config) (fields : List (String × Json))
    (query : Query) : Prop where
  scopes : Reads "scopes" fields [] (SpellsEntries (SpellsScope whitelist)) query.scopes
  filters : Reads "filters" fields [] (SpellsFilterList whitelist) query.filters
  search : Reads "search" fields none (SpellsSearch config) query.search
  sorting : Reads "sort" fields [] (SpellsEntries (SpellsOrder whitelist)) query.sorting
  trashed : SpellsTrashed fields query.trashed

/-- The body spells the query. -/
inductive SpellsBody (whitelist : Whitelist) (config : Config) : Json → Query → Prop where
  | empty : SpellsBody whitelist config .null {}
  | object {fields : List (String × Json)} {query : Query} :
      SpellsRequest whitelist config fields query →
      SpellsBody whitelist config (.object fields) query

/-! ## The grammar is what spells something -/

theorem isCombinator_iff (json : Json) :
    IsCombinator json ↔ ∃ kind, SpellsCombinator json kind := by
  constructor
  · rintro (rfl | rfl)
    · exact ⟨.and, rfl⟩
    · exact ⟨.or, rfl⟩
  · rintro ⟨combinator, rfl⟩
    cases combinator with
    | and => exact .inl rfl
    | or => exact .inr rfl

theorem isScalars_iff (json : Json) : IsScalars json ↔ ∃ scalars, SpellsScalars json scalars := by
  constructor
  · rintro ⟨items, rfl, each⟩
    obtain ⟨scalars, spelled⟩ := (exists_forall₂_iff _ items).mpr each
    exact ⟨scalars, items, rfl, spelled⟩
  · rintro ⟨scalars, items, rfl, spelled⟩
    exact ⟨items, rfl, (exists_forall₂_iff _ items).mp ⟨scalars, spelled⟩⟩

/-- The operator that stands for an absent one takes the value, so only a given one
has to fit. -/
theorem exists_operator_iff (fields : List (String × Json)) (given : FilterValue) :
    (∃ operator, Reads "operator" fields (defaultOperator given) SpellsOperator operator ∧
        Takes operator given) ↔
      AbsentOr "operator" fields fun json =>
        ∃ operator, SpellsOperator json operator ∧ Takes operator given := by
  have fits : Takes (defaultOperator given) given := by
    cases given with
    | null => exact rfl
    | scalar scalar => exact trivial
    | list scalars => exact rfl
  unfold Reads AbsentOr
  cases Json.present? "operator" fields with
  | none => exact ⟨fun _ _ impossible => (nomatch impossible), fun _ => ⟨_, rfl, fits⟩⟩
  | some json =>
      constructor
      · intro found other same
        cases same
        exact found
      · intro found
        exact found json rfl

theorem takesMissing_iff (json : Json) :
    (json = .text "=" ∨ json = .text "!=") ↔
      ∃ operator, SpellsOperator json operator ∧ Takes operator .null := by
  constructor
  · rintro (rfl | rfl)
    · exact ⟨.equal, rfl, rfl⟩
    · exact ⟨.unequal, rfl, rfl⟩
  · rintro ⟨operator, rfl, takes⟩
    cases operator with
    | equal => exact .inl rfl
    | unequal => exact .inr rfl
    | _ => cases takes

theorem isOperator_iff (scalar : Scalar) (json : Json) :
    IsOperator json ↔ ∃ operator, SpellsOperator json operator ∧ Takes operator (.scalar scalar) :=
  exists_congr fun _ => (and_iff_left trivial).symm

theorem isMembership_iff (scalars : List Scalar) (json : Json) :
    IsMembership json ↔ ∃ operator, SpellsOperator json operator ∧ Takes operator (.list scalars) :=
  exists_congr fun _ => And.comm

theorem isComparison_iff (fields : List (String × Json)) :
    IsComparison fields ↔ ∃ operator value, SpellsComparison fields operator value := by
  constructor
  · intro compared
    have spelled {given : FilterValue} (value : SpellsValue fields given)
        (fits : ∃ operator,
          Reads "operator" fields (defaultOperator given) SpellsOperator operator ∧
            Takes operator given) :
        ∃ operator value, SpellsComparison fields operator value := by
      obtain ⟨operator, reads, takes⟩ := fits
      exact ⟨operator, adapted operator given, given, value, reads, takes, rfl⟩
    cases compared with
    | missing absent operator =>
        exact spelled (.missing absent)
          ((exists_operator_iff _ _).mpr ((AbsentOr.congr takesMissing_iff).mp operator))
    | scalar given operator =>
        obtain ⟨json, found, scalar, read⟩ := given
        exact spelled (.scalar found read)
          ((exists_operator_iff _ _).mpr ((AbsentOr.congr (isOperator_iff scalar)).mp operator))
    | list given operator =>
        obtain ⟨json, found, listed⟩ := given
        obtain ⟨scalars, read⟩ := (isScalars_iff json).mp listed
        exact spelled (.list found read)
          ((exists_operator_iff _ _).mpr ((AbsentOr.congr (isMembership_iff scalars)).mp operator))
  · rintro ⟨operator, value, given, spelled, reads, takes, _⟩
    have fits := (exists_operator_iff fields given).mp ⟨operator, reads, takes⟩
    cases spelled with
    | missing absent => exact .missing absent ((AbsentOr.congr takesMissing_iff).mpr fits)
    | scalar found read =>
        exact .scalar ⟨_, found, _, read⟩ ((AbsentOr.congr (isOperator_iff _)).mpr fits)
    | list found read =>
        exact .list ⟨_, found, (isScalars_iff _).mpr ⟨_, read⟩⟩
          ((AbsentOr.congr (isMembership_iff _)).mpr fits)

mutual

/-- What spells a filter is a node of the grammar. -/
theorem SpellsFilter.isFilter {whitelist : Whitelist} : ∀ {json : Json} {filter : Filter},
    SpellsFilter whitelist json filter → IsFilter whitelist json
  | _, _, .group type beside nested members =>
      .group _ _ ((AbsentOr.congr isCombinator_iff).mpr ((exists_reads_iff _ _).mp ⟨_, type⟩))
        beside nested members.areFilters
  | _, _, .test type field absent compared => by
      obtain ⟨json, found, named⟩ := field
      exact .test _ ((AbsentOr.congr isCombinator_iff).mpr ((exists_reads_iff _ _).mp ⟨_, type⟩))
        ⟨json, found, _, named⟩ absent ((isComparison_iff _).mpr ⟨_, _, compared⟩)

theorem SpellsFilters.areFilters {whitelist : Whitelist} : ∀ {items : List Json}
    {filters : List Filter}, SpellsFilters whitelist items filters →
      ∀ item ∈ items, IsFilter whitelist item
  | _, _, .nil => fun _ impossible => absurd impossible List.not_mem_nil
  | _, _, .cons here there => List.forall_mem_cons.mpr ⟨here.isFilter, there.areFilters⟩

end

/-- Nodes that each spell a filter spell a list. -/
theorem exists_spellsFilters {whitelist : Whitelist} {items : List Json}
    (each : ∀ item ∈ items, ∃ filter, SpellsFilter whitelist item filter) :
    ∃ filters, SpellsFilters whitelist items filters := by
  induction items with
  | nil => exact ⟨[], .nil⟩
  | cons item items ih =>
      obtain ⟨⟨filter, here⟩, later⟩ := List.forall_mem_cons.mp each
      obtain ⟨filters, there⟩ := ih later
      exact ⟨filter :: filters, .cons here there⟩

theorem isFilter_iff (whitelist : Whitelist) (json : Json) :
    IsFilter whitelist json ↔ ∃ filter, SpellsFilter whitelist json filter := by
  constructor
  · intro node
    induction node with
    | group fields items type beside nested _ ih =>
        obtain ⟨combinator, typed⟩ :=
          (exists_reads_iff Combinator.and _).mpr ((AbsentOr.congr isCombinator_iff).mp type)
        obtain ⟨members, spelled⟩ := exists_spellsFilters ih
        exact ⟨.group combinator members, .group typed beside nested spelled⟩
    | test fields type field absent compared =>
        obtain ⟨combinator, typed⟩ :=
          (exists_reads_iff Combinator.and _).mpr ((AbsentOr.congr isCombinator_iff).mp type)
        obtain ⟨json, found, name, named⟩ := field
        obtain ⟨operator, value, spelled⟩ := (isComparison_iff fields).mp compared
        exact ⟨.test combinator ⟨name, operator, value⟩,
          .test typed ⟨json, found, named⟩ absent spelled⟩
  · rintro ⟨filter, spelled⟩
    exact spelled.isFilter

theorem isFilterList_iff (whitelist : Whitelist) (json : Json) :
    IsFilterList whitelist json ↔ ∃ filters, SpellsFilterList whitelist json filters := by
  constructor
  · rintro ⟨items, rfl, nodes⟩
    obtain ⟨filters, spelled⟩ :=
      exists_spellsFilters fun item member => (isFilter_iff whitelist item).mp (nodes item member)
    exact ⟨filters, items, rfl, spelled⟩
  · rintro ⟨filters, items, rfl, spelled⟩
    exact ⟨items, rfl, spelled.areFilters⟩

theorem isEntries_iff {shape : List (String × Json) → Prop}
    {spells : List (String × Json) → α → Prop}
    (same : ∀ fields, shape fields ↔ ∃ value, spells fields value) (json : Json) :
    IsEntries shape json ↔ ∃ entries, SpellsEntries spells json entries := by
  have entry (item : Json) : (∃ fields, item = .object fields ∧ shape fields) ↔
      ∃ value fields, item = .object fields ∧ spells fields value := by
    constructor
    · rintro ⟨fields, rfl, shaped⟩
      obtain ⟨value, spelled⟩ := (same fields).mp shaped
      exact ⟨value, fields, rfl, spelled⟩
    · rintro ⟨value, fields, rfl, spelled⟩
      exact ⟨fields, rfl, (same fields).mpr ⟨value, spelled⟩⟩
  constructor
  · rintro ⟨items, rfl, each⟩
    obtain ⟨entries, spelled⟩ :=
      (exists_forall₂_iff _ items).mpr fun item member => (entry item).mp (each item member)
    exact ⟨entries, items, rfl, spelled⟩
  · rintro ⟨entries, items, rfl, spelled⟩
    exact ⟨items, rfl, fun item member =>
      (entry item).mpr ((exists_forall₂_iff _ items).mp ⟨entries, spelled⟩ item member)⟩

theorem isScope_iff (whitelist : Whitelist) (fields : List (String × Json)) :
    IsScope whitelist fields ↔ ∃ call, SpellsScope whitelist fields call := by
  constructor
  · rintro ⟨⟨json, found, name, rfl, exposed⟩, listed⟩
    obtain ⟨parameters, read⟩ := (exists_reads_iff ([] : List Json) _).mpr listed
    exact ⟨⟨name, parameters⟩, found, exposed, read⟩
  · rintro ⟨call, found, exposed, read⟩
    exact ⟨⟨_, found, _, rfl, exposed⟩, (exists_reads_iff _ _).mp ⟨_, read⟩⟩

theorem isDirection_iff (json : Json) : IsDirection json ↔ ∃ way, SpellsDirection json way := by
  constructor
  · rintro ⟨word, rfl, up | down⟩
    · exact ⟨.ascending, word, rfl, up⟩
    · exact ⟨.descending, word, rfl, down⟩
  · rintro ⟨direction, word, rfl, same⟩
    cases direction with
    | ascending => exact ⟨word, rfl, .inl same⟩
    | descending => exact ⟨word, rfl, .inr same⟩

theorem isOrder_iff (whitelist : Whitelist) (fields : List (String × Json)) :
    IsOrder whitelist fields ↔ ∃ order, SpellsOrder whitelist fields order := by
  constructor
  · rintro ⟨⟨json, found, name, named⟩, way⟩
    obtain ⟨direction, read⟩ := (exists_reads_iff Sql.Direction.ascending _).mpr
      ((AbsentOr.congr isDirection_iff).mp way)
    exact ⟨⟨name, direction⟩, ⟨json, found, named⟩, read⟩
  · rintro ⟨order, ⟨json, found, named⟩, read⟩
    exact ⟨⟨json, found, _, named⟩,
      (AbsentOr.congr isDirection_iff).mpr ((exists_reads_iff _ _).mp ⟨_, read⟩)⟩

theorem isSearch_iff (config : Config) (json : Json) :
    IsSearch json ↔ ∃ term, SpellsSearch config json term := by
  have text (json : Json) :
      IsText json ↔ ∃ text value, json = .text value ∧ text = some value :=
    ⟨fun ⟨value, same⟩ => ⟨some value, value, same, rfl⟩, fun ⟨_, value, same, _⟩ => ⟨value, same⟩⟩
  constructor
  · rintro ⟨fields, rfl, valued, flagged⟩
    obtain ⟨caseSensitive, flag⟩ := (exists_reads_iff config.caseSensitiveSearch _).mpr flagged
    obtain ⟨value, read⟩ := (exists_reads_iff none _).mpr ((AbsentOr.congr text).mp valued)
    exact ⟨searchTerm? caseSensitive value, fields, caseSensitive, value, rfl, flag, read, rfl⟩
  · rintro ⟨term, fields, caseSensitive, value, rfl, flag, read, _⟩
    exact ⟨fields, rfl, (AbsentOr.congr text).mpr ((exists_reads_iff _ _).mp ⟨_, read⟩),
      (exists_reads_iff _ _).mp ⟨_, flag⟩⟩

theorem isRequest_iff (whitelist : Whitelist) (config : Config) (fields : List (String × Json)) :
    IsRequest whitelist fields ↔ ∃ query, SpellsRequest whitelist config fields query := by
  constructor
  · intro request
    obtain ⟨scopes, called⟩ := (exists_reads_iff ([] : List ScopeCall) _).mpr
      ((AbsentOr.congr (isEntries_iff (isScope_iff whitelist))).mp request.scopes)
    obtain ⟨filters, filtered⟩ := (exists_reads_iff ([] : List Filter) _).mpr
      ((AbsentOr.congr (isFilterList_iff whitelist)).mp request.filters)
    obtain ⟨search, searched⟩ := (exists_reads_iff none _).mpr
      ((AbsentOr.congr (isSearch_iff config)).mp request.search)
    obtain ⟨sorting, sorted⟩ := (exists_reads_iff ([] : List SortKey) _).mpr
      ((AbsentOr.congr (isEntries_iff (isOrder_iff whitelist))).mp request.sorting)
    obtain ⟨withTrashed, included⟩ := (exists_reads_iff false _).mpr request.withTrashed
    obtain ⟨onlyTrashed, restricted⟩ := (exists_reads_iff false _).mpr request.onlyTrashed
    exact ⟨⟨scopes, filters, search, sorting, Trashed.ofFlags withTrashed onlyTrashed⟩,
      called, filtered, searched, sorted, withTrashed, onlyTrashed, included, restricted, rfl⟩
  · rintro ⟨query, spelled⟩
    obtain ⟨withTrashed, onlyTrashed, included, restricted, _⟩ := spelled.trashed
    exact
      { scopes := (AbsentOr.congr (isEntries_iff (isScope_iff whitelist))).mpr
          ((exists_reads_iff _ _).mp ⟨_, spelled.scopes⟩)
        filters := (AbsentOr.congr (isFilterList_iff whitelist)).mpr
          ((exists_reads_iff _ _).mp ⟨_, spelled.filters⟩)
        search := (AbsentOr.congr (isSearch_iff config)).mpr
          ((exists_reads_iff _ _).mp ⟨_, spelled.search⟩)
        sorting := (AbsentOr.congr (isEntries_iff (isOrder_iff whitelist))).mpr
          ((exists_reads_iff _ _).mp ⟨_, spelled.sorting⟩)
        withTrashed := (exists_reads_iff _ _).mp ⟨_, included⟩
        onlyTrashed := (exists_reads_iff _ _).mp ⟨_, restricted⟩ }

/-- The bodies of the grammar are those that spell a query. -/
theorem isBody_iff (whitelist : Whitelist) (config : Config) (body : Json) :
    IsBody whitelist body ↔ ∃ query, SpellsBody whitelist config body query := by
  constructor
  · intro shaped
    cases shaped with
    | empty => exact ⟨{}, .empty⟩
    | object fields request =>
        obtain ⟨query, spelled⟩ := (isRequest_iff whitelist config fields).mp request
        exact ⟨query, .object spelled⟩
  · rintro ⟨query, spelled⟩
    cases spelled with
    | empty => exact .empty
    | object request => exact .object _ ((isRequest_iff whitelist config _).mpr ⟨query, request⟩)

end QueryGate.Request
