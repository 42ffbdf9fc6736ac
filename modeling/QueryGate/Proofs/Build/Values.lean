import QueryGate.Proofs.Build.Search
import QueryGate.Proofs.Build.Stages
import QueryGate.Proofs.Filter.Refusal
import QueryGate.Proofs.Query.Shape
import QueryGate.Proofs.Sql.Erasure

/-!
# Values of a request stay out of the text

Every stage of a build makes of a query, but for the values, what it makes of the erased
query. So two queries of one shape are turned down alike, or their statements have one
text and differ only in the values that are bound (`text_build_of_sameShape`).

What a stage makes is compared after erasing, the failures included. A condition along a
relation path keeps two groups that look alike looking alike, and so does a run of
siblings that one more of them is added to.
-/

set_option autoImplicit false

namespace QueryGate

/-! ## Predicates -/

section Predicates

variable (backend : Sql.Backend) (operand : Sql.Operand)

theorem erased_containment (one other : Scalar) :
    (containment backend operand one).erased = (containment backend operand other).erased := by
  cases backend <;> rfl

theorem erased_scalarCondition (operator : Operator) (one other : Scalar) :
    (scalarCondition backend operand operator one).erased =
      (scalarCondition backend operand operator other).erased := by
  cases operator with
  | containsAll => exact erased_containment backend operand one other
  | containsAny => exact erased_containment backend operand one other
  | _ => rfl

/-- A list of values is asked for in a form that its length decides. -/
theorem erased_membership (operator : Operator) (values : List Scalar) :
    (membership backend operand operator values).erased =
      (membership backend operand operator (values.map fun _ => .standIn)).erased := by
  have elements : (values.map (containment backend operand)).map Sql.Condition.erased =
      ((values.map fun _ => Scalar.standIn).map (containment backend operand)).map
        Sql.Condition.erased := by
    rw [List.map_map, List.map_map, List.map_map]
    exact List.map_congr_left fun value _ => erased_containment backend operand value .standIn
  have among (negated : Bool) :
      (Sql.Group.one (.among negated operand (values.map Scalar.toValue))).erased =
        (Sql.Group.one (.among negated operand
          ((values.map fun _ => Scalar.standIn).map Scalar.toValue))).erased := by
    simp only [Sql.Group.erased_one, Sql.Condition.erased, List.map_map, Function.comp_def]
  unfold membership
  rw [List.isEmpty_map]
  split
  · rfl
  · split
    · rw [Sql.Group.erased_foldl_add, elements, ← Sql.Group.erased_foldl_add]
    · rw [Sql.Group.erased_foldl_add, elements, ← Sql.Group.erased_foldl_add]
    · exact among true
    · exact among false

/-- A predicate is made alike of a test and of the erased one. -/
theorem map_erased_predicate (target : Target) (test : FieldTest) :
    (predicate backend target test).map Sql.Group.erased =
      (predicate backend target test.erased).map Sql.Group.erased := by
  obtain ⟨field, operator, value⟩ := test
  cases value with
  | null => rfl
  | scalar scalar =>
      unfold predicate
      dsimp only [FieldTest.erased, FilterValue.erased]
      split
      · rfl
      · have same := erased_scalarCondition backend target.operand operator scalar .standIn
        simp only [Except.map, Sql.Group.erased_one, same]
  | list values =>
      have made (values : List Scalar) : predicate backend target ⟨field, operator, .list values⟩ =
          if operator.isMembership then .ok (membership backend target.operand operator values)
          else .error (.violation [.key field] (.listOperand operator.text)) := rfl
      rw [FieldTest.erased, FilterValue.erased, made, made]
      split
      · exact congrArg Except.ok (erased_membership backend target.operand operator values)
      · rfl

end Predicates

/-! ## Paths -/

/-- Groups that look alike still do under the hops of a path. -/
theorem HopFrame.erased_congr {frame : Sql.Group → Sql.Condition} (hops : HopFrame frame)
    {one other : Sql.Group} (same : one.erased = other.erased) :
    (frame one).erased = (frame other).erased := by
  have hop (keys : JoinKeys) (related : Model) (hopAlias parentAlias : String)
      {one other : Sql.Group} (same : one.erased = other.erased) :
      (hopExists keys related hopAlias parentAlias one).erased =
        (hopExists keys related hopAlias parentAlias other).erased := by
    simp only [hopExists, Sql.Condition.erased, Sql.Group.erased_toCondition,
      Sql.Group.erased_addGroup, same]
  induction hops with
  | last keys related hopAlias parentAlias => exact hop keys related hopAlias parentAlias same
  | before keys related hopAlias parentAlias _ ih =>
      apply hop keys related hopAlias parentAlias
      rw [Sql.Group.erased_one, Sql.Group.erased_one, ih]

theorem TestFrame.erased_congr {frame : Sql.Group → Sql.Group} (framed : TestFrame frame)
    {one other : Sql.Group} (same : one.erased = other.erased) :
    (frame one).erased = (frame other).erased := by
  cases framed with
  | bare => exact same
  | along hops => rw [Sql.Group.erased_one, Sql.Group.erased_one, hops.erased_congr same]

section Filters

variable {context : Context}

theorem map_erased_testGroup (test : FieldTest) :
    (testGroup context test).map Sql.Group.erased =
      (testGroup context test.erased).map Sql.Group.erased := by
  by_cases names : context.NamesColumn test.field
  · obtain ⟨target, frame, frames, framed⟩ := testGroup_of_namesColumn names
    rw [framed test rfl, framed test.erased rfl]
    exact Success.map_map_congr (map_erased_predicate context.backend target test)
      fun _ _ same => frames.erased_congr same
  · obtain ⟨cause, refused⟩ := testGroup_of_not_namesColumn names
    rw [refused test rfl, refused test.erased rfl]

/-! ## Filters -/

/-- The runs with every value erased. -/
def Runs.erased (runs : Runs) : Runs :=
  ⟨runs.closed.map Sql.Group.erased, runs.current.map Sql.Group.erased⟩

theorem Runs.erased_add (runs : Runs) (combinator : Combinator) (group : Sql.Group) :
    (runs.add combinator group).erased = runs.erased.add combinator group.erased := by
  obtain ⟨closed, current⟩ := runs
  have opened := Sql.Group.erased_addGroup .all group
  cases current with
  | none => cases combinator <;> exact congrArg (fun run => Runs.mk _ (some run)) opened
  | some run =>
      cases combinator with
      | and =>
          exact congrArg (fun run => Runs.mk _ (some run)) (Sql.Group.erased_addGroup run group)
      | or => exact congrArg₂ (fun closed run => Runs.mk closed (some run)) List.map_append opened

theorem Runs.map_erased_toGroup? (runs : Runs) :
    runs.toGroup?.map Sql.Group.erased = runs.erased.toGroup? := by
  have listed : runs.erased.toList = runs.toList.map Sql.Group.erased := by
    obtain ⟨closed, current⟩ := runs
    cases current <;> simp [toList, erased]
  unfold toGroup?
  rw [listed]
  cases runs.toList with
  | nil => rfl
  | cons run runs =>
      cases runs with
      | nil => rfl
      | cons next runs =>
          exact congrArg some (Sql.Group.erased_foldl_addGroup .any (run :: next :: runs))

mutual

/-- A filter is walked alike before and after erasing. -/
theorem map_erased_nodeGroup : ∀ (filter : Filter),
    (nodeGroup context filter).map (Option.map Sql.Group.erased) =
      (nodeGroup context filter.erased).map (Option.map Sql.Group.erased)
  | .test combinator test => by
      rw [Filter.erased, nodeGroup, nodeGroup]
      exact Success.map_map_congr (map_erased_testGroup test) fun _ _ same => congrArg some same
  | .group combinator members => by
      rw [Filter.erased, nodeGroup, nodeGroup]
      refine Success.map_map_congr (map_erased_collectRuns members rfl) fun one other same => ?_
      rw [Runs.map_erased_toGroup?, Runs.map_erased_toGroup?, same]

/-- A filter list is walked alike before and after erasing, from runs that look alike. -/
theorem map_erased_collectRuns : ∀ (filters : List Filter) {runs others : Runs},
    runs.erased = others.erased →
      (collectRuns context runs filters).map Runs.erased =
        (collectRuns context others (Filter.listErased filters)).map Runs.erased
  | [], runs, others, same => by
      rw [Filter.listErased, collectRuns, collectRuns]
      exact congrArg Except.ok same
  | filter :: filters, runs, others, same => by
      rw [Filter.listErased, collectRuns, collectRuns]
      refine Success.map_bind_congr (map_erased_nodeGroup filter) fun one other alike => ?_
      cases one with
      | none =>
          cases other with
          | none => exact map_erased_collectRuns filters same
          | some group => cases alike
      | some group =>
          cases other with
          | none => cases alike
          | some held =>
              apply map_erased_collectRuns filters
              rw [Runs.erased_add, Runs.erased_add, same, Option.some.inj alike,
                Filter.combinator_erased]

end

/-- A filter list has a condition alike before and after erasing. -/
theorem map_erased_filterGroup (filters : List Filter) :
    (filterGroup context filters).map (Option.map Sql.Group.erased) =
      (filterGroup context (Filter.listErased filters)).map (Option.map Sql.Group.erased) := by
  refine Success.map_map_congr (map_erased_collectRuns filters rfl) fun one other same => ?_
  rw [Runs.map_erased_toGroup?, Runs.map_erased_toGroup?, same]

/-! ## Searches -/

theorem erased_textCondition (backend : Sql.Backend) (operand : Sql.Operand) (term : SearchTerm) :
    (textCondition backend operand term).erased =
      (textCondition backend operand term.erased).erased := by
  obtain ⟨value, caseSensitive⟩ := term
  cases caseSensitive with
  | false =>
      simp only [textCondition, SearchTerm.erased, Bool.not_false, if_true, Sql.Condition.erased]
  | true =>
      cases backend <;> simp only [textCondition, SearchTerm.erased, Bool.not_true,
        Bool.false_eq_true, if_false, Sql.Condition.erased, Sql.Operand.erased]

theorem SearchForm.erased_congr {backend : Sql.Backend}
    {form : SearchTerm → Option Sql.Condition} (forms : SearchForm backend form)
    (term : SearchTerm) :
    (form term).map Sql.Condition.erased = (form term.erased).map Sql.Condition.erased := by
  cases forms with
  | nothing => rfl
  | bare operand => exact congrArg some (erased_textCondition backend operand term)
  | along operand hops =>
      refine congrArg some (hops.erased_congr ?_)
      rw [Sql.Group.erased_one, Sql.Group.erased_one, erased_textCondition]

theorem map_erased_patternCondition (term : SearchTerm) (pattern : String) :
    (patternCondition context term pattern).result.map (Option.map Sql.Condition.erased) =
      (patternCondition context term.erased pattern).result.map
        (Option.map Sql.Condition.erased) := by
  by_cases served : '*' ∉ pattern.toList → context.CanSearch (FieldPath.ofText pattern).relation
  · obtain ⟨form, forms, found⟩ := patternCondition_of_canSearch served
    rw [found, found]
    exact congrArg Except.ok (forms.erased_congr term)
  · obtain ⟨plain, astray⟩ := Classical.not_imp.mp served
    obtain ⟨cause, refused⟩ := patternCondition_of_not_canSearch plain astray
    rw [refused, refused]

theorem map_erased_searchConditions (term : SearchTerm) (patterns : List String) :
    (searchConditions context term patterns).result.map (List.map Sql.Condition.erased) =
      (searchConditions context term.erased patterns).result.map
        (List.map Sql.Condition.erased) := by
  induction patterns with
  | nil => rfl
  | cons pattern patterns ih =>
      rw [searchConditions, searchConditions, Outcome.result_bind, Outcome.result_bind]
      refine Success.map_bind_congr (map_erased_patternCondition term pattern)
        fun one other here => ?_
      rw [Outcome.result_bind, Outcome.result_bind]
      refine Success.map_bind_congr ih fun conditions others there => congrArg Except.ok ?_
      rw [List.map_append, List.map_append, there, ← Option.toList_map, ← Option.toList_map, here]

/-- A search has a condition alike before and after erasing its term. -/
theorem map_erased_searchGroup (searchable : List String) (term : SearchTerm) :
    (searchGroup context searchable term).result.map (Option.map Sql.Group.erased) =
      (searchGroup context searchable term.erased).result.map (Option.map Sql.Group.erased) := by
  rw [searchGroup, searchGroup, Outcome.result_bind, Outcome.result_bind]
  refine Success.map_bind_congr (map_erased_searchConditions term searchable)
    fun conditions others same => congrArg Except.ok ?_
  have empty : conditions.isEmpty = others.isEmpty := by
    rw [← List.isEmpty_map (f := Sql.Condition.erased), same, List.isEmpty_map]
  rw [empty]
  split
  · rfl
  · refine congrArg some ?_
    rw [Sql.Group.erased_foldl_add, Sql.Group.erased_foldl_add, same]

end Filters

/-! ## Builds -/

namespace ListParts

/-- The parts with every value of their groups erased. -/
def erased (parts : ListParts) : ListParts :=
  { parts with
    scopes := parts.scopes.map Sql.Group.erased
    filters := parts.filters.map Sql.Group.erased
    search := parts.search.map Sql.Group.erased }

theorem erased_restrict (parts : ListParts) (select : Sql.Select) :
    (parts.restrict select).erased = parts.erased.restrict select.erased := by
  simp only [restrict, erased, Sql.Select.erased_restrict?]

theorem erased_extend (parts : ListParts) (root : String) (select : Sql.Select) :
    (parts.extend root select).erased = parts.erased.extend root select.erased := by
  have applied (plan : SortPlan) (select : Sql.Select) :
      (plan.apply root select).erased = plan.apply root select.erased := by
    unfold SortPlan.apply
    split <;> rfl
  rw [extend, applied, erased_restrict]
  rfl

end ListParts

namespace Builder

variable (builder : Builder)

theorem erased_applyVisibility (visibility : Trashed) (select : Sql.Select) :
    (builder.applyVisibility visibility select).erased =
      builder.applyVisibility visibility select.erased := by
  unfold applyVisibility visibilityCondition?
  cases builder.resource.model.softDelete with
  | none => rfl
  | some column =>
      cases visibility with
      | included => rfl
      | _ => exact Sql.Select.erased_restrict _ _

theorem map_erased_searchResult (term : Option SearchTerm) :
    (builder.searchResult term).map (Option.map Sql.Group.erased) =
      (builder.searchResult (term.map SearchTerm.erased)).map (Option.map Sql.Group.erased) := by
  cases term with
  | none => rfl
  | some term => exact map_erased_searchGroup builder.resource.whitelist.searchable term

/-- The stages of a list make the same parts of a query and of the erased one, but for
the values. -/
theorem map_erased_makeParts (query : Query) :
    (builder.makeParts query).map ListParts.erased =
      (builder.makeParts query.erased).map ListParts.erased := by
  have scopes : (scopeGroup builder.resource.scopes query.scopes).map
        (Option.map Sql.Group.erased) =
      (scopeGroup builder.resource.scopes query.erased.scopes).map
        (Option.map Sql.Group.erased) := rfl
  have plan : (builder.sortResult query.sorting).map id =
      (builder.sortResult query.erased.sorting).map id := rfl
  unfold makeParts
  refine Success.map_bind_congr scopes fun scopes scopes' sameScopes => ?_
  refine Success.map_bind_congr (map_erased_filterGroup query.filters)
    fun filters filters' sameFilters => ?_
  refine Success.map_bind_congr (builder.map_erased_searchResult query.search)
    fun search search' sameSearch => ?_
  refine Success.map_bind_congr plan fun plan plan' samePlan => congrArg Except.ok ?_
  cases (samePlan : plan = plan')
  simp only [ListParts.erased, sameScopes, sameFilters, sameSearch]

/-- A build makes the same statement of a query and of the erased one, but for the
values, or fails alike. -/
theorem map_erased_build (query : Query) (operation : Operation) (select : Sql.Select) :
    (builder.build query operation select).result.map Sql.Select.erased =
      (builder.build query.erased operation select).result.map Sql.Select.erased := by
  have parts : (builder.makePartsFor query operation).map ListParts.erased =
      (builder.makePartsFor query.erased operation).map ListParts.erased := by
    unfold makePartsFor
    split
    · exact builder.map_erased_makeParts query
    · rfl
  rw [result_build, result_build]
  refine Success.map_map_congr parts fun one other same => ?_
  rw [erased_applyVisibility, erased_applyVisibility, ListParts.erased_extend,
    ListParts.erased_extend, same]

end Builder

/-- Two queries of one shape, on one resource, either fail alike or make statements with
the same text and equally many values. So nothing of a scalar or of a search term comes
into the text of a statement. -/
theorem text_build_of_sameShape (builder : Builder) (first second : Query)
    (same : first.SameShape second) (operation : Operation) (select : Sql.Select) :
    (∃ failure, (builder.build first operation select).result = .error failure ∧
      (builder.build second operation select).result = .error failure) ∨
    ∃ built other, (builder.build first operation select).result = .ok built ∧
      (builder.build second operation select).result = .ok other ∧
      (builder.backend.render built).text = (builder.backend.render other).text ∧
      (builder.backend.render built).values.length =
        (builder.backend.render other).values.length := by
  have alike : (builder.build first operation select).result.map Sql.Select.erased =
      (builder.build second operation select).result.map Sql.Select.erased := by
    rw [builder.map_erased_build first, same, ← builder.map_erased_build second]
  rcases Success.alike_of_map_eq alike with failed | ⟨built, other, made, found, agree⟩
  · exact .inl failed
  · exact .inr ⟨built, other, made, found, builder.backend.text_render_of_erased_eq agree⟩

/-- Posts by authors, searched by their titles. -/
def searchedPosts : Builder :=
  { resource :=
      { model :=
          { table := "posts"
            relations := [("author", .belongsTo "users" "author_id" "id")] }
        whitelist := { searchable := ["title"] }
        catalog := [("users", { table := "users" })] }
    backend := .postgres }

/-- A query with a pattern for the title, two names for the author, and a search. -/
def namesQuery (pattern name term : String) : Query :=
  { filters :=
      [.test .and ⟨"title", .like, .scalar (.text pattern)⟩,
        .test .or ⟨"author.name", .among, .list [.text name, .int 1]⟩]
    search := some ⟨term, true⟩ }

/-- A quote, a statement and a comment, given as values, leave the text of the statement
as it is. -/
theorem text_build_of_sameShape_namesQuery :
    ∃ built other,
      (searchedPosts.build (namesQuery "a%" "b" "c") .index
        { outputs := [.allOf "posts"], source := ⟨"posts", none⟩ }).result = .ok built ∧
      (searchedPosts.build (namesQuery "'" "; DROP TABLE posts;" "--") .index
        { outputs := [.allOf "posts"], source := ⟨"posts", none⟩ }).result = .ok other ∧
      (Sql.Backend.postgres.render built).text = (Sql.Backend.postgres.render other).text := by
  have succeeds : ∃ built, (searchedPosts.build (namesQuery "a%" "b" "c") .index
      { outputs := [.allOf "posts"], source := ⟨"posts", none⟩ }).result = .ok built := ⟨_, rfl⟩
  obtain ⟨_, made⟩ := succeeds
  rcases text_build_of_sameShape searchedPosts (namesQuery "a%" "b" "c")
      (namesQuery "'" "; DROP TABLE posts;" "--") rfl .index
      { outputs := [.allOf "posts"], source := ⟨"posts", none⟩ } with
    ⟨_, failed, _⟩ | ⟨built, other, first, second, text, _⟩
  · cases made.symm.trans failed
  · exact ⟨built, other, first, second, text⟩

end QueryGate
