import QueryGate.Proofs.Build.References
import QueryGate.Proofs.Build.Stages
import QueryGate.Proofs.Request.Fields

/-!
# What a request can reach

The filters and the orders of a request reach nothing that the owner of the resource
did not declare. Whatever they add to the statement is declared of the hops on declared
paths, or it is a column of a field that stands in the request, is legal and is admitted
by the whitelist (`references_serve`). The identifiers that come from the request are
plain: word characters, dashes and `>`, and never a quote, a dot, a blank or a semicolon.
-/

set_option autoImplicit false

namespace QueryGate

open Request (AdmittedName FilterField LegalName SortField)
open Sql (Reference restrictionReferences)

/-! ## Plain identifiers -/

/-- An identifier of word characters, dashes and `>` only. -/
def IsPlain (identifier : String) : Prop :=
  ∀ character ∈ identifier.toList,
    Text.isWord character = true ∨ character = '-' ∨ character = '>'

/-- The quotes, the backtick, the dot and the semicolon. -/
def delimiters : List Char :=
  ['\x22', '\x27', '\x60', '.', ';']

/-- The blank characters are apart from the word characters beyond ASCII. -/
theorem blankRanges_apart :
    ∀ blank ∈ Text.blankRanges, ∀ word ∈ Text.wordRanges, blank.2 < word.1 ∨ word.2 < blank.1 := by
  decide +kernel

/-- No blank character is a word character. -/
theorem isWord_of_isBlank {character : Char} (blank : Text.isBlank character = true) :
    Text.isWord character = false := by
  obtain ⟨range, among, low, high⟩ := (Text.Ranges.contains_iff _ _).mp blank
  by_cases ascii : character.toNat < 0x80
  · have checked : ∀ code : Fin 0x80, Text.isBlank (Char.ofNat code) = true →
        Text.isWord (Char.ofNat code) = false := by decide
    have found := checked ⟨character.toNat, ascii⟩
    rw [Char.ofNat_toNat] at found
    exact found blank
  · rw [Text.isWord, if_neg ascii, Bool.eq_false_iff]
    intro word
    obtain ⟨other, inWords, wordLow, wordHigh⟩ := (Text.Ranges.contains_iff _ _).mp word
    have apart := blankRanges_apart range among other inWords
    omega

/-- A plain identifier has no blank and no delimiter. -/
theorem IsPlain.excludes {identifier : String} (plain : IsPlain identifier) :
    ∀ character ∈ identifier.toList,
      Text.isBlank character = false ∧ character ∉ delimiters := by
  have wordless : (delimiters.all fun delimiter => !Text.isWord delimiter) = true := by decide
  intro character member
  rcases plain character member with word | rfl | rfl
  · constructor
    · cases blank : Text.isBlank character with
      | false => rfl
      | true => exact absurd word (Bool.eq_false_iff.mp (isWord_of_isBlank blank))
    · intro delimiter
      have apart := List.all_eq_true.mp wordless character delimiter
      rw [word] at apart
      cases apart
  · decide
  · decide

theorem isPlain_of_legal {name part : String} (legal : LegalName name)
    (within : ∀ character ∈ part.toList, character ∈ name.toList ∧ character ≠ '.') :
    IsPlain part := by
  intro character member
  obtain ⟨inName, notDot⟩ := within character member
  rcases legal.characters character inName with word | dot | others
  · exact .inl word
  · exact absurd dot notDot
  · exact .inr others

variable {context : Context}

/-- The column of a legal field is plain. -/
theorem FieldColumn.isPlain_name {name : String} {column : Sql.Column}
    (names : FieldColumn context name column) (legal : LegalName name) : IsPlain column.name := by
  have behind {before field : String} (last : '.' ∉ field.toList) :
      ∀ character ∈ field.toList,
        character ∈ (before ++ "." ++ field).toList ∧ character ≠ '.' := by
    intro character member
    rw [String.toList_append]
    exact ⟨List.mem_append_right _ member, fun dot => last (dot ▸ member)⟩
  cases names with
  | root single =>
      exact isPlain_of_legal legal fun character member =>
        ⟨member, fun dot => single (dot ▸ member)⟩
  | pivot _ last => exact isPlain_of_legal legal (behind last)
  | related _ _ last => exact isPlain_of_legal legal (behind last)

/-- The table of a legal field is the root table, the pivot table, or a plain alias. -/
theorem FieldColumn.table_cases {name : String} {column : Sql.Column}
    (names : FieldColumn context name column) (legal : LegalName name) :
    column.table = context.root.table ∨
      (∃ pivot, context.pivot = some pivot ∧ column.table = pivot.table) ∨
      IsPlain column.table := by
  cases names with
  | root _ => exact .inl rfl
  | pivot listed _ => exact .inr (.inl ⟨_, listed, rfl⟩)
  | @related relation field _ _ _ _ =>
      refine .inr (.inr fun character member => ?_)
      rcases mem_pathAlias member with rfl | ⟨inRelation, notDot⟩
      · exact .inl (by decide)
      · have inName : character ∈ (relation ++ "." ++ field).toList := by
          rw [String.toList_append, String.toList_append]
          exact List.mem_append_left _ (List.mem_append_left _ inRelation)
        rcases legal.characters character inName with word | dot | others
        · exact .inl word
        · exact absurd dot notDot
        · exact .inr others

/-- The column of a field that the request names, that is legal and that is admitted.
Its own name is plain, and so is the alias it is under, if any. -/
structure RequestedColumn (context : Context) (occurs : String → Prop) (admits : String → Bool)
    (column : Sql.Column) : Prop where
  field : ∃ name, AdmittedName occurs admits name ∧ FieldColumn context name column
  isPlain_name : IsPlain column.name
  table : column.table = context.root.table ∨
    (∃ pivot, context.pivot = some pivot ∧ column.table = pivot.table) ∨ IsPlain column.table

theorem RequestedColumn.of_field {occurs : String → Prop} {admits : String → Bool} {name : String}
    {column : Sql.Column} (named : AdmittedName occurs admits name)
    (names : FieldColumn context name column) : RequestedColumn context occurs admits column :=
  ⟨⟨name, named, names⟩, names.isPlain_name named.legal, names.table_cases named.legal⟩

/-! ## The built statement -/

/-- The statement is the host's with the parts of the query and the visibility of
deleted rows: the joins, the orders and the references of the restriction are the
host's own, and then those of the parts. -/
structure Extends (builder : Builder) (parts : ListParts) (visibility : Trashed)
    (select built : Sql.Select) : Prop where
  joins : built.joins = select.joins ++ parts.plan.joins
  orders : built.orders = select.orders ++ parts.plan.orders
  outputs : built.outputs = select.outputs ∨
    built.outputs = [.allOf builder.resource.model.table]
  restriction : restrictionReferences built.restriction =
    restrictionReferences select.restriction ++
      (restrictionReferences parts.scopes ++ restrictionReferences parts.filters ++
        restrictionReferences parts.search ++
          (Builder.visibilityCondition? builder.resource.model visibility).toList.flatMap
            Sql.Condition.references)

/-- Restricting a statement changes its restriction only. -/
theorem ListParts.restrict_frame (parts : ListParts) (select : Sql.Select) :
    ∃ restriction, parts.restrict select = { select with restriction } := by
  have frame (select : Sql.Select) (group : Option Sql.Group) :
      ∃ restriction, select.restrict? group = { select with restriction } := by
    cases group with
    | none => exact ⟨select.restriction, rfl⟩
    | some group => exact ⟨_, rfl⟩
  obtain ⟨called, same⟩ := frame select parts.scopes
  obtain ⟨filtered, next⟩ := frame { select with restriction := called } parts.filters
  obtain ⟨searched, last⟩ := frame { select with restriction := filtered } parts.search
  exact ⟨searched, by rw [restrict, same, next, last]⟩

theorem Builder.applyVisibility_frame (builder : Builder) (visibility : Trashed)
    (select : Sql.Select) :
    ∃ restriction, builder.applyVisibility visibility select = { select with restriction } := by
  unfold applyVisibility
  split
  · exact ⟨select.restriction, rfl⟩
  · exact ⟨_, rfl⟩

theorem Builder.references_applyVisibility (builder : Builder) (visibility : Trashed)
    (select : Sql.Select) :
    restrictionReferences (builder.applyVisibility visibility select).restriction =
      restrictionReferences select.restriction ++
        (visibilityCondition? builder.resource.model visibility).toList.flatMap
          Sql.Condition.references := by
  unfold applyVisibility
  cases visibilityCondition? builder.resource.model visibility with
  | none => exact (List.append_nil _).symm
  | some condition => exact Sql.references_restrict select ⟨.all, [condition]⟩

theorem extends_applyVisibility (builder : Builder) (parts : ListParts) (visibility : Trashed)
    (select : Sql.Select) :
    Extends builder parts visibility select
      (builder.applyVisibility visibility (parts.extend builder.resource.model.table select)) := by
  obtain ⟨restricted, same⟩ := parts.restrict_frame select
  obtain ⟨visible, seen⟩ :=
    builder.applyVisibility_frame visibility (parts.extend builder.resource.model.table select)
  have extended : (parts.extend builder.resource.model.table select).joins =
        select.joins ++ parts.plan.joins ∧
      (parts.extend builder.resource.model.table select).orders =
        select.orders ++ parts.plan.orders ∧
      ((parts.extend builder.resource.model.table select).outputs = select.outputs ∨
        (parts.extend builder.resource.model.table select).outputs =
          [.allOf builder.resource.model.table]) := by
    rw [ListParts.extend, same, SortPlan.apply]
    split
    · exact ⟨rfl, rfl, .inr rfl⟩
    · exact ⟨rfl, rfl, .inl rfl⟩
  obtain ⟨joins, orders, outputs⟩ := extended
  refine ⟨?_, ?_, ?_, ?_⟩
  · rw [seen]
    exact joins
  · rw [seen]
    exact orders
  · rw [seen]
    exact outputs
  · rw [builder.references_applyVisibility, ListParts.extend, SortPlan.restriction_apply,
      ListParts.restrict, Sql.references_restrict?, Sql.references_restrict?,
      Sql.references_restrict?]
    simp only [List.append_assoc]

/-- What the filters and the orders of a request add to the statement is declared by
the owner, or it is the column of a field that stands in the request and is admitted.
Filters may refer to both, joins only to what is declared, and orders only to columns
of fields. The columns and aliases that come from the request are plain identifiers,
and the alias of a written path is the path with underscores for its dots. -/
theorem references_serve (builder : Builder) (body : Json) (operation : Operation)
    (select built : Sql.Select)
    (made : (builder.serve body operation select).result = .ok built) :
    ∃ query parts, builder.parse body = .ok query ∧ builder.MakesFor query operation parts ∧
      Extends builder parts (operation.trashed query.trashed) select built ∧
      (∀ reference ∈ restrictionReferences parts.filters,
        DeclaredReference builder.context reference ∨
          ∃ column, reference = .column column ∧
            RequestedColumn builder.context (FilterField body)
              builder.resource.whitelist.canFilter column) ∧
      (∀ join ∈ parts.plan.joins, ∀ reference ∈ join.references,
        DeclaredReference builder.context reference) ∧
      (∀ order ∈ parts.plan.orders,
        RequestedColumn builder.context (SortField body) builder.resource.whitelist.canSort
          order.column) ∧
      (∀ identifier, IsPlain identifier → ∀ character ∈ identifier.toList,
        Text.isBlank character = false ∧ character ∉ delimiters) ∧
      ∀ relation : String, relation.toList.head? ≠ some '.' →
        pathAlias (relationNames relation) = relationAlias relation := by
  obtain ⟨query, parsed, made⟩ := (Outcome.result_bind_eq_ok_iff _ _ _).mp made
  obtain ⟨parts, makes, rfl⟩ :=
    (builder.result_build_eq_ok_iff query operation select built).mp made
  have tests := Request.tests_of_parse parsed
  have orders := Request.orders_of_parse parsed
  refine ⟨query, parts, parsed, makes,
    extends_applyVisibility builder parts (operation.trashed query.trashed) select, ?_⟩
  cases isList : operation.isList with
  | true =>
      have lists := makes.lists isList
      refine ⟨?_, (sortPlan_refers lists.sorting).joins, ?_, fun _ plain => plain.excludes,
        pathAlias_relationNames⟩
      · intro reference member
        obtain ⟨fieldTest, among, refers⟩ :=
          references_filterGroup lists.filters reference member
        exact refers.imp_right fun ⟨column, same, names⟩ =>
          ⟨column, same, .of_field (tests fieldTest among) names⟩
      · intro order member
        obtain ⟨key, among, names⟩ := (sortPlan_refers lists.sorting).orders order member
        exact .of_field (orders key among) names
  | false =>
      -- Only a list regards filters and orders, so there is nothing to look at.
      rw [makes.acts isList]
      exact ⟨fun _ member => absurd member List.not_mem_nil,
        fun _ member => absurd member List.not_mem_nil,
        fun _ member => absurd member List.not_mem_nil, fun _ plain => plain.excludes,
        pathAlias_relationNames⟩

/-- Posts by authors in teams, with orders by the team's name and filters on the
title and on the team's name. -/
def teamPosts : Builder :=
  { resource :=
      { model :=
          { table := "posts"
            relations := [("author", .belongsTo "users" "author_id" "id")] }
        whitelist := { filterable := ["title", "author.team.*"], sortable := ["author.team.name"] }
        catalog :=
          [("users",
              { table := "users"
                relations := [("team", .belongsTo "teams" "team_id" "id")] }),
            ("teams", { table := "teams", softDelete := some "deleted_at" })] }
    backend := .sqlite }

/-- A body with a test on the team's name in a group, and an order by that name. -/
def teamBody : Json :=
  .object
    [("filters", .array
        [.object [("field", .text "title"), ("value", .text "Lean")],
          .object
            [("nested", .array
                [.object [("field", .text "author.team.name"), ("value", .text "core")]]),
              ("type", .text "or")]]),
      ("sort", .array [.object [("field", .text "author.team.name")]])]

/-- The rows of the built statement come in the order of one column, which an entry of
the body names. -/
theorem references_serve_teams :
    ∃ built, (teamPosts.serve teamBody .index
        { outputs := [.allOf "posts"], source := ⟨"posts", none⟩ }).result = .ok built ∧
      built.orders.length = 1 ∧
      ∀ order ∈ built.orders, ∃ name, SortField teamBody name ∧
        FieldColumn teamPosts.context name order.column := by
  have succeeds : ∃ built, (teamPosts.serve teamBody .index
        { outputs := [.allOf "posts"], source := ⟨"posts", none⟩ }).result = .ok built ∧
      built.orders.length = 1 :=
    ⟨_, rfl, rfl⟩
  obtain ⟨built, made, single⟩ := succeeds
  refine ⟨built, made, single, fun order member => ?_⟩
  obtain ⟨_, parts, _, _, extended, _, _, orders, _⟩ :=
    references_serve teamPosts teamBody .index _ built made
  rw [extended.orders] at member
  obtain ⟨name, named, names⟩ := (orders order member).field
  exact ⟨name, named.occurs, names⟩

end QueryGate
