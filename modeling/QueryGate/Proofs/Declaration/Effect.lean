import QueryGate.Declaration.Basic
import QueryGate.Proofs.Build.Legs
import QueryGate.Proofs.Build.Reach
import QueryGate.Proofs.Declaration.Columns
import QueryGate.Proofs.Filter.Refusal
import QueryGate.Proofs.Request.Acceptance

/-!
# Flags that take effect

A field of a declaration that is marked as filterable or sortable names a column that
requests may filter or order by. A declaration takes the name as it is, and a request is
held to the format of field names, where a dot separates a relation from a column. So a flag
takes effect exactly where the column has a plain name: a legal field name without dots
(`takesEffect_iff`).
-/

set_option autoImplicit false

namespace QueryGate

/-! ## Requests by a column -/

/-- What a request can use a column for. -/
inductive ColumnUse where
  | filtering
  | ordering
deriving DecidableEq, Repr

namespace ColumnUse

/-- The flag of the fields whose columns have the use. -/
def flag : ColumnUse → FieldFlag
  | filtering => .filterable
  | ordering => .sortable

/-- The columns that requests may use. -/
def listed (whitelist : Whitelist) : ColumnUse → List String
  | filtering => whitelist.filterable
  | ordering => whitelist.sortable

/-- A filter by the column with the value one, or an order by the column. -/
def body (column : String) : ColumnUse → Json
  | filtering =>
      .object [("filters", .array [.object [("field", .text column), ("value", .int 1)]])]
  | ordering => .object [("sort", .array [.object [("field", .text column)]])]

/-- The query of such a body. -/
def query (column : String) : ColumnUse → Query
  | filtering => { filters := [.test .and ⟨column, .equal, .scalar (.int 1)⟩] }
  | ordering => { sorting := [⟨column, .ascending⟩] }

end ColumnUse

/-- The condition that a column of the root table is one: its date, for a column that is
compared by its date alone. -/
def Builder.equalsOne (builder : Builder) (column : String) : Sql.Condition :=
  let operand : Sql.Operand := .column ⟨builder.resource.model.table, column⟩
  if builder.resource.model.isDateField column then
    dateCondition builder.backend operand .equal (.int 1)
  else .compare .equal operand (.value (.int 1))

/-- The statement restricted by the column of the root table, or ordered by it. -/
def ColumnUse.effect (builder : Builder) (column : String) : ColumnUse → Sql.Select → Sql.Select
  | filtering, select => select.restrict (.one (builder.equalsOne column))
  | ordering, select =>
      { select with
        orders := select.orders ++ [⟨⟨builder.resource.model.table, column⟩, .ascending⟩] }

/-- Requests can use the column of the root table: whatever the backend and the pivot table,
the body is accepted, and every list is restricted by the column or ordered by it. -/
def Resource.TakesEffect (resource : Resource) (use : ColumnUse) (column : String) : Prop :=
  ∀ backend pivot, let builder : Builder := ⟨resource, backend, pivot⟩
    ∃ query, builder.parse (use.body column) = .ok query ∧
      ∀ operation select, operation.isList = true →
        (builder.build query operation select).result =
          .ok (builder.applyVisibility .excluded (use.effect builder column select))

/-- A legal field name without dots. -/
structure PlainName (name : String) : Prop extends Request.LegalName name where
  dotless : '.' ∉ name.toList

namespace Request

variable {whitelist : Whitelist} {config : Config} {column : String}

theorem isWhitelisted_of_mem {patterns : List String} (member : column ∈ patterns) :
    isWhitelisted patterns column = true := by
  simp [isWhitelisted, member]

/-- The fields of a test of a column spell the test that the column is one. -/
theorem spellsFilter_column_iff (filter : Filter) :
    SpellsFilter whitelist (.object [("field", .text column), ("value", .int 1)]) filter ↔
      LegalName column ∧ whitelist.canFilter column = true ∧
        filter = .test .and ⟨column, .equal, .scalar (.int 1)⟩ := by
  constructor
  · intro spelled
    cases spelled with
    | group _ _ nested _ => cases nested
    | @test _ combinator name operator value kind named _ comparison =>
        obtain ⟨json, found, rfl, legal, admitted⟩ := named
        cases found
        obtain ⟨given, spells, read, _, rfl⟩ := comparison
        have kind : combinator = .and := kind
        have equal : operator = defaultOperator given := read
        cases spells with
        | missing absent => cases absent
        | scalar found made =>
            cases found
            cases made
            subst equal kind
            exact ⟨legal, admitted, rfl⟩
        | list found made =>
            cases found
            obtain ⟨items, impossible, _⟩ := made
            cases impossible
  · rintro ⟨legal, admitted, rfl⟩
    refine .test rfl ⟨.text column, rfl, rfl, legal, admitted⟩ rfl ?_
    exact ⟨.scalar (.int 1), .scalar rfl rfl, rfl, trivial, rfl⟩

/-- The fields of an order by a column spell the ascending order by it. -/
theorem spellsOrder_column_iff (order : SortKey) :
    SpellsOrder whitelist [("field", .text column)] order ↔
      LegalName column ∧ whitelist.canSort column = true ∧ order = ⟨column, .ascending⟩ := by
  constructor
  · rintro ⟨⟨json, found, rfl, legal, admitted⟩, direction⟩
    cases found
    have ascending : order.direction = .ascending := direction
    exact ⟨legal, admitted, by rw [← ascending]⟩
  · rintro ⟨legal, admitted, rfl⟩
    exact ⟨⟨.text column, rfl, rfl, legal, admitted⟩, rfl⟩

theorem spellsBody_object_iff {fields : List (String × Json)} {query : Query} :
    SpellsBody whitelist config (.object fields) query ↔
      SpellsRequest whitelist config fields query := by
  constructor
  · intro body
    cases body with
    | object spelled => exact spelled
  · exact .object

/-- Without flags about trashed rows, these are left out. -/
theorem spellsTrashed_absent_iff {fields : List (String × Json)} {trashed : Trashed}
    (included : Json.present? "with_trashed" fields = none)
    (restricted : Json.present? "only_trashed" fields = none) :
    SpellsTrashed fields trashed ↔ trashed = .excluded := by
  simp [SpellsTrashed, Reads, included, restricted, Trashed.ofFlags]

/-- A filter by a column spells its query, if the name of the column is legal and listed. -/
theorem spellsBody_filtering_iff (query : Query) :
    SpellsBody whitelist config (ColumnUse.filtering.body column) query ↔
      LegalName column ∧ whitelist.canFilter column = true ∧
        query = ColumnUse.filtering.query column := by
  obtain ⟨scopes, filters, search, sorting, trashed⟩ := query
  constructor
  · intro body
    have spelled := spellsBody_object_iff.mp body
    have scopes : scopes = [] := spelled.scopes
    have search : search = none := spelled.search
    have sorting : sorting = [] := spelled.sorting
    have trashed := (spellsTrashed_absent_iff rfl rfl).mp spelled.trashed
    obtain ⟨items, same, filtered⟩ : SpellsFilterList whitelist
      (.array [.object [("field", .text column), ("value", .int 1)]]) filters := spelled.filters
    cases same
    cases filtered with
    | cons here rest =>
        cases rest
        obtain ⟨legal, admitted, rfl⟩ := (spellsFilter_column_iff _).mp here
        subst scopes search sorting trashed
        exact ⟨legal, admitted, rfl⟩
  · rintro ⟨legal, admitted, same⟩
    cases same
    refine .object ⟨rfl, ?_, rfl, rfl, (spellsTrashed_absent_iff rfl rfl).mpr rfl⟩
    exact ⟨_, rfl, .cons ((spellsFilter_column_iff _).mpr ⟨legal, admitted, rfl⟩) .nil⟩

/-- An order by a column spells its query, if the name of the column is legal and listed. -/
theorem spellsBody_ordering_iff (query : Query) :
    SpellsBody whitelist config (ColumnUse.ordering.body column) query ↔
      LegalName column ∧ whitelist.canSort column = true ∧
        query = ColumnUse.ordering.query column := by
  obtain ⟨scopes, filters, search, sorting, trashed⟩ := query
  constructor
  · intro body
    have spelled := spellsBody_object_iff.mp body
    have scopes : scopes = [] := spelled.scopes
    have filters : filters = [] := spelled.filters
    have search : search = none := spelled.search
    have trashed := (spellsTrashed_absent_iff rfl rfl).mp spelled.trashed
    obtain ⟨items, same, ordered⟩ : SpellsEntries (SpellsOrder whitelist)
      (.array [.object [("field", .text column)]]) sorting := spelled.sorting
    cases same
    cases ordered with
    | cons here rest =>
        cases rest
        obtain ⟨fields, same, order⟩ := here
        cases same
        obtain ⟨legal, admitted, rfl⟩ := (spellsOrder_column_iff _).mp order
        subst scopes filters search trashed
        exact ⟨legal, admitted, rfl⟩
  · rintro ⟨legal, admitted, same⟩
    cases same
    refine .object ⟨rfl, rfl, rfl, ?_, (spellsTrashed_absent_iff rfl rfl).mpr rfl⟩
    exact ⟨_, rfl, .cons ⟨_, rfl, (spellsOrder_column_iff _).mpr ⟨legal, admitted, rfl⟩⟩ .nil⟩

/-- A body by a column spells its query, if the name of the column is legal and listed. -/
theorem spellsBody_column_iff (use : ColumnUse) (query : Query) :
    SpellsBody whitelist config (use.body column) query ↔
      LegalName column ∧ isWhitelisted (use.listed whitelist) column = true ∧
        query = use.query column := by
  cases use with
  | filtering => exact spellsBody_filtering_iff query
  | ordering => exact spellsBody_ordering_iff query

/-- A body by a column asks for its query, if the name of the column is legal and listed. -/
theorem parse_column_iff (use : ColumnUse) (query : Query) :
    parse whitelist config (use.body column) = .ok query ↔
      LegalName column ∧ isWhitelisted (use.listed whitelist) column = true ∧
        query = use.query column := by
  have flat : PassesDepth config (use.body column) := by
    intro fields same filters found
    cases use with
    | filtering =>
        cases same
        cases found
        have alone : filterDepth
            (.array [.object [("field", .text column), ("value", .int 1)]]) = 0 := by
          simp [filterDepth, containerDepth, itemsDepth, fieldsDepth, Json.isContainer]
        rw [alone]
        exact Nat.zero_le _
    | ordering =>
        cases same
        cases found
  rw [parse_eq_ok_iff, spellsBody_column_iff, and_iff_right flat]

end Request

/-! ## Lists by a column -/

theorem FieldPath.ofText_of_dotless {column : String} (dotless : '.' ∉ column.toList) :
    ofText column = ⟨none, column⟩ := by
  rcases ofText_cases column with ⟨split, _⟩ | ⟨relation, field, _, rfl, _⟩
  · exact split
  · exact absurd (by simp) dotless

theorem FieldPath.dotless_field_ofText (column : String) : '.' ∉ (ofText column).field.toList := by
  rcases ofText_cases column with ⟨split, dotless⟩ | ⟨relation, field, split, _, dotless⟩ <;>
    rw [split] <;> exact dotless

/-- A single test is the condition of the list. -/
theorem filterGroup_test (context : Context) (combinator : Combinator) (test : FieldTest) :
    filterGroup context [.test combinator test] =
      (testGroup context test).map fun group => some (Sql.Group.all.addGroup group) := by
  rw [filterGroup, collectRuns, nodeGroup]
  cases testGroup context test <;> cases combinator <;> rfl

namespace ColumnUse

variable {column : String} {operation : Operation}

theorem trashed_query (use : ColumnUse) (isList : operation.isList = true) :
    operation.trashed (use.query column).trashed = .excluded := by
  cases use <;> cases operation <;> first | rfl | cases isList

/-- Every list by a dotless column is restricted by the column of the root table, or
ordered by it. -/
theorem result_build_query (use : ColumnUse) (builder : Builder) (dotless : '.' ∉ column.toList)
    (isList : operation.isList = true) (select : Sql.Select) :
    (builder.build (use.query column) operation select).result =
      .ok (builder.applyVisibility .excluded (use.effect builder column select)) := by
  have own := FieldPath.ofText_of_dotless dotless
  rw [Builder.result_build_eq_ok_iff, use.trashed_query isList]
  have acts {parts : ListParts} (makes : builder.Makes (use.query column) parts) :
      builder.MakesFor (use.query column) operation parts :=
    ⟨fun _ => makes, fun other => by rw [isList] at other; cases other⟩
  cases use with
  | filtering =>
      refine ⟨⟨none, some (.one (builder.equalsOne column)), none, {}⟩,
        acts ⟨rfl, ?_, rfl, rfl⟩, ?_⟩
      · show filterGroup builder.context [.test .and ⟨column, .equal, .scalar (.int 1)⟩] = _
        rw [filterGroup_test, testGroup, own, Builder.equalsOne]
        simp only [predicate, Builder.context]
        cases builder.resource.model.isDateField column <;> rfl
      · exact congrArg (builder.applyVisibility .excluded)
          (ListParts.extend_nothing builder.resource.model.table
            (select.restrict (.one (builder.equalsOne column)))).symm
  | ordering =>
      let plan := ({} : SortPlan).order builder.resource.model.table column .ascending
      refine ⟨⟨none, none, none, plan⟩, acts ⟨rfl, rfl, rfl, ?_⟩, ?_⟩
      · show sortPlan builder.context [⟨column, .ascending⟩] = _
        rw [sortPlan, SortPlan.addKeys, SortPlan.addKey, own]
        rfl
      · refine congrArg (builder.applyVisibility .excluded) ?_
        show _ = plan.extend select
        simp [SortPlan.extend, plan, SortPlan.order, effect]

end ColumnUse

/-- A model without relations has no relation paths. -/
theorem Context.not_resolves {context : Context} (bare : context.root.relations = [])
    (path : String) : ¬ context.Resolves path := by
  rintro ⟨hops, walked⟩
  rw [Context.resolve, Catalog.resolve] at walked
  cases names : relationNames path with
  | nil => exact Text.segments_ne_nil '.' path.toList (List.map_eq_nil_iff.mp names)
  | cons name rest =>
      rw [names] at walked
      obtain ⟨hop, _, here, _⟩ := Catalog.walk_cons_eq_ok_iff.mp walked
      obtain ⟨relation, _, found, _⟩ := Catalog.hop_eq_ok_iff.mp here
      rw [Model.relation?, bare] at found
      cases found

/-- A column with a dot is none that a model without relations has. -/
theorem Context.dotless_of_namesColumn {context : Context} (bare : context.root.relations = [])
    (pivotless : context.pivot = none) {column : String} (names : context.NamesColumn column) :
    '.' ∉ column.toList := by
  rcases FieldPath.ofText_cases column with ⟨_, dotless⟩ | ⟨relation, field, split, _⟩
  · exact dotless
  · rw [Context.NamesColumn, split, Context.HasColumns] at names
    split at names
    · rw [pivotless] at names
      cases names
    · exact absurd names.resolves (Context.not_resolves bare relation)

namespace ColumnUse

variable {column : String}

/-- A list by a column of the root table, without relations and without a pivot table, is
built only where the column has no dots. -/
theorem dotless_of_result_build (use : ColumnUse) {builder : Builder}
    (bare : builder.resource.model.relations = []) (pivotless : builder.pivot = none)
    {select : Sql.Select}
    (built : (builder.build (use.query column) .index select).result =
      .ok (builder.applyVisibility .excluded (use.effect builder column select))) :
    '.' ∉ column.toList := by
  obtain ⟨parts, makes, same⟩ := (builder.result_build_eq_ok_iff _ _ _ _).mp built
  have makes := makes.lists rfl
  cases use with
  | filtering =>
      have filtered := makes.filters
      rw [query, filterGroup_test, Success.map_eq_ok_iff] at filtered
      obtain ⟨group, tested, _⟩ := filtered
      obtain ⟨names, _⟩ := (exists_testGroup_iff _).mp ⟨group, tested⟩
      exact Context.dotless_of_namesColumn bare pivotless names
  | ordering =>
      have extended := (extends_applyVisibility builder parts
        (Operation.index.trashed (ordering.query column).trashed) select).orders
      obtain ⟨restriction, visible⟩ :=
        builder.applyVisibility_frame .excluded (ordering.effect builder column select)
      rw [← same, visible] at extended
      have orders : [⟨⟨builder.resource.model.table, column⟩, .ascending⟩] = parts.plan.orders :=
        List.append_cancel_left extended
      rw [(sortPlan_made makes.sorting).orders] at orders
      obtain ⟨key, listed, term⟩ := List.mem_filterMap.mp (orders ▸ List.mem_cons_self)
      -- An order is by the last segment of its field, and here by all of it.
      cases List.mem_singleton.mp listed
      rw [Context.orderTerm?] at term
      split at term
      · cases term
      · obtain ⟨table, _, written⟩ := Option.map_eq_some_iff.mp term
        have last : (FieldPath.ofText column).field = column :=
          congrArg (fun term : Sql.OrderTerm => term.column.name) written
        rw [← last]
        exact FieldPath.dotless_field_ofText column

end ColumnUse

/-! ## Flags -/

/-- A listed column of a resource without relations takes effect exactly where its name is
plain. -/
theorem Resource.takesEffect_iff {resource : Resource} (bare : resource.model.relations = [])
    (use : ColumnUse) {column : String} (listed : column ∈ use.listed resource.whitelist) :
    resource.TakesEffect use column ↔ PlainName column := by
  have admitted := Request.isWhitelisted_of_mem listed
  constructor
  · intro effect
    obtain ⟨query, parsed, builds⟩ := effect .sqlite none
    obtain ⟨legal, _, rfl⟩ := (Request.parse_column_iff use query).mp parsed
    have built := builds .index ⟨[], ⟨resource.model.table, none⟩, [], none, [], [], none, none⟩ rfl
    exact ⟨legal, use.dotless_of_result_build bare rfl built⟩
  · intro plain backend pivot
    refine ⟨use.query column, ?_, fun operation select isList => ?_⟩
    · exact (Request.parse_column_iff use _).mpr ⟨plain.toLegalName, admitted, rfl⟩
    · exact use.result_build_query ⟨resource, backend, pivot⟩ plain.dotless isList select

/-- The columns of flagged fields are listed in the resource of the declaration. -/
theorem Declaration.mem_listed {declaration : Declaration} {declared : DeclaredModel}
    (accepted : declaration.model = .ok declared) {fields : List DeclaredField}
    (given : declaration.fields = .ok fields) {field : DeclaredField} (member : field ∈ fields)
    (use : ColumnUse) (marked : field.has use.flag = true) :
    field.column ∈ use.listed (Resource.ofSpec declared.spec).whitelist := by
  obtain ⟨fields', given', rest⟩ := (Success.bind_eq_ok_iff _ _ _).mp accepted
  obtain ⟨settings, _, rest⟩ := (Success.bind_eq_ok_iff _ _ _).mp rest
  obtain ⟨table, _, rest⟩ := (Success.bind_eq_ok_iff _ _ _).mp rest
  obtain ⟨columns, made, same⟩ := (Success.bind_eq_ok_iff _ _ _).mp rest
  cases given.symm.trans given'
  cases same
  obtain ⟨_, rfl⟩ := (DeclaredColumns.ofFields_eq_ok_iff fields columns).mp made
  have flagged : field.column ∈ flaggedColumns use.flag fields :=
    List.mem_map_of_mem (List.mem_filter.mpr ⟨member, marked⟩)
  cases use with
  | filtering => exact flagged
  | ordering => exact flagged

/-- A flag of an accepted declaration takes effect where the column of its field has a plain
name. Where the column is named by an attribute, it takes effect nowhere else. -/
theorem Declaration.flag_takesEffect {declaration : Declaration} {declared : DeclaredModel}
    (accepted : declaration.model = .ok declared) {fields : List DeclaredField}
    (given : declaration.fields = .ok fields) {field : DeclaredField} (member : field ∈ fields)
    (use : ColumnUse) (marked : field.has use.flag = true) :
    (PlainName field.column →
      (Resource.ofSpec declared.spec).TakesEffect use field.column) ∧
    ∀ column, Attribute.sharedText? "column_name" field.attributes = some column →
      ((Resource.ofSpec declared.spec).TakesEffect use column ↔ PlainName column) := by
  have listed := Declaration.mem_listed accepted given member use marked
  refine ⟨(Resource.takesEffect_iff rfl use listed).mpr, fun column named => ?_⟩
  have same : field.column = column := by
    rw [DeclaredField.column, named]
    rfl
  rw [← same]
  exact Resource.takesEffect_iff rfl use listed

/-- A title that requests may filter by, in a column of another name. -/
def titleIn (column : String) : DeclaredField :=
  { name := "title"
    type := .other
    attributes :=
      [.list "sea_orm" [.setting "column_name" (.text column)],
        .list "query" [.flag "filterable"]] }

/-- Posts with such a title. -/
def titledPosts (column : String) : Declaration :=
  { attributes := [.list "sea_orm" [.setting "table_name" (.text "posts")]]
    shape := .named [titleIn column] }

theorem sharedText?_titleIn (column : String) :
    Attribute.sharedText? "column_name" (titleIn column).attributes = some column := by
  with_unfolding_all rfl

theorem has_titleIn (column : String) : (titleIn column).has .filterable = true := by
  with_unfolding_all rfl

theorem model_titledPosts (column : String) :
    (titledPosts column).model =
      .ok { table := "posts", pageLimit := none, columns := { filterable := [column] } } := by
  with_unfolding_all rfl

/-- Requests can filter by the title in a column with a plain name. -/
theorem Declaration.flag_takesEffect_titledPosts :
    ∃ declared, (titledPosts "heading").model = .ok declared ∧
      (Resource.ofSpec declared.spec).TakesEffect .filtering "heading" := by
  have plain : PlainName "heading" :=
    ⟨(Request.legalName_iff _).mpr (by decide), by decide⟩
  have effect := Declaration.flag_takesEffect (model_titledPosts "heading") rfl List.mem_cons_self
    .filtering (has_titleIn "heading")
  exact ⟨_, model_titledPosts "heading", (effect.2 _ (sharedText?_titleIn _)).mpr plain⟩

/-- Requests cannot filter by the title in a column whose name has a blank, though its field
is marked. -/
theorem Declaration.not_flag_takesEffect_titledPosts :
    ∃ declared, (titledPosts "display name").model = .ok declared ∧
      (titledPosts "display name").fields = .ok [titleIn "display name"] ∧
      (titleIn "display name").has .filterable = true ∧
      (titleIn "display name").column = "display name" ∧
      ¬ (Resource.ofSpec declared.spec).TakesEffect .filtering "display name" := by
  have named : (titleIn "display name").column = "display name" := by
    rw [DeclaredField.column, sharedText?_titleIn]
    rfl
  have listed : "display name" ∈ ["display name"] := List.mem_cons_self
  refine ⟨_, model_titledPosts _, rfl, has_titleIn _, named, fun effect => ?_⟩
  have legal := ((Resource.takesEffect_iff rfl .filtering listed).mp effect).toLegalName
  exact absurd ((Request.legalName_iff _).mp legal).1 (by decide)

end QueryGate
