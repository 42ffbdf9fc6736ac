import QueryGate.Proofs.Build.Search
import QueryGate.Proofs.Build.Stages
import QueryGate.Proofs.Filter.Refusal
import QueryGate.Proofs.Request.Fields

/-!
# What the parser accepts is not refused later

Whether an operator takes a value is decided twice, once when a body is parsed and once
when the condition of a test is built. The two agree: whatever the resource, the stages
that build a parsed query are at most unable to serve it, and never refuse it, while a
query that comes from elsewhere is refused for the first test that the parser would not
have let through (`refusals_of_build`).
-/

set_option autoImplicit false

namespace QueryGate

open QueryGate.Filter (listTests)
open QueryGate.Request (Takes)

/-! ## Results that refuse nothing -/

/-- The result is a value, or else the resource is at fault and not the request. -/
def NeverRefuses {α : Type} (result : Except Failure α) : Prop :=
  ∀ failure, result = .error failure → ∃ cause, failure = .misconfigured cause

namespace NeverRefuses

variable {α β : Type}

theorem ok (value : α) : NeverRefuses (.ok value) :=
  Success.FailsOnly.ok value

theorem misconfigured (cause : Misconfiguration) :
    NeverRefuses (.error (.misconfigured cause) : Except Failure α) :=
  Success.FailsOnly.error ⟨cause, rfl⟩

theorem map {result : Except Failure α} (sound : NeverRefuses result) (function : α → β) :
    NeverRefuses (result.map function) :=
  Success.FailsOnly.map sound function

theorem bind {result : Except Failure α} (sound : NeverRefuses result)
    {next : α → Except Failure β} (later : ∀ value, NeverRefuses (next value)) :
    NeverRefuses (result >>= next) :=
  Success.FailsOnly.bind sound later

theorem outcome_bind {first : Outcome α} (sound : NeverRefuses first.result)
    {next : α → Outcome β} (later : ∀ value, NeverRefuses (next value).result) :
    NeverRefuses (first >>= next).result := by
  rw [Outcome.result_bind]
  exact sound.bind later

end NeverRefuses

variable {context : Context}

/-! ## Searches -/

theorem neverRefuses_patternCondition (term : SearchTerm) (pattern : String) :
    NeverRefuses (patternCondition context term pattern).result := by
  by_cases served : '*' ∉ pattern.toList → context.CanSearch (FieldPath.ofText pattern).relation
  · obtain ⟨form, _, found⟩ := patternCondition_of_canSearch served
    rw [found]
    exact .ok _
  · obtain ⟨plain, astray⟩ := Classical.not_imp.mp served
    obtain ⟨cause, refused⟩ := patternCondition_of_not_canSearch plain astray
    rw [refused]
    exact .misconfigured cause

theorem neverRefuses_searchConditions (term : SearchTerm) (patterns : List String) :
    NeverRefuses (searchConditions context term patterns).result := by
  induction patterns with
  | nil => exact .ok []
  | cons pattern patterns ih =>
      rw [searchConditions]
      refine (neverRefuses_patternCondition term pattern).outcome_bind fun _ => ?_
      exact ih.outcome_bind fun _ => .ok _

theorem neverRefuses_searchGroup (searchable : List String) (term : SearchTerm) :
    NeverRefuses (searchGroup context searchable term).result :=
  (neverRefuses_searchConditions term searchable).outcome_bind fun _ => .ok _

theorem Builder.neverRefuses_searchResult (builder : Builder) (term : Option SearchTerm) :
    NeverRefuses (builder.searchResult term) := by
  cases term with
  | none => exact .ok none
  | some term => exact neverRefuses_searchGroup _ term

/-! ## Orders -/

theorem Context.neverRefuses_resolve (path : String) : NeverRefuses (context.resolve path) :=
  fun _ failed => Context.failure_of_resolve failed

namespace SortPlan

theorem neverRefuses_addKey (plan : SortPlan) (key : SortKey) :
    NeverRefuses (plan.addKey context key) := by
  unfold addKey
  dsimp only
  split
  · exact .ok _
  · split
    · split
      · exact .ok _
      · exact .ok _
    · exact (Context.neverRefuses_resolve _).bind fun _ => .ok _

/-- The failure that ends a plan is the resource's. -/
theorem failure_of_addKeys (keys : List SortKey) {plan final : SortPlan} {failure : Failure}
    (ended : addKeys context plan keys = (final, some failure)) :
    ∃ cause, failure = .misconfigured cause := by
  induction keys generalizing plan with
  | nil => cases ended
  | cons key keys ih =>
      rw [addKeys] at ended
      cases added : plan.addKey context key with
      | ok next =>
          rw [added] at ended
          exact ih ended
      | error _ =>
          rw [added] at ended
          cases ended
          exact neverRefuses_addKey _ key failure added

end SortPlan

theorem Builder.neverRefuses_applySorting (builder : Builder) (keys : List SortKey)
    (select : Sql.Select) : NeverRefuses (builder.applySorting keys select).result := by
  rw [result_applySorting]
  refine NeverRefuses.map ?_ _
  unfold sortResult
  split
  · exact .ok _
  · next planned =>
      obtain ⟨cause, rfl⟩ := SortPlan.failure_of_addKeys keys planned
      exact .misconfigured cause

/-! ## Filters -/

/-- Filters whose operators take their values are not refused. -/
theorem neverRefuses_filterGroup {filters : List Filter}
    (fits : ∀ test ∈ listTests filters, Takes test.operator test.value) :
    NeverRefuses (filterGroup context filters) := by
  intro failure failed
  obtain ⟨before, test, after, split, _, refused⟩ :=
    (filterGroup_eq_error_iff filters failure).mp failed
  have takes := fits test (by rw [split]; exact List.mem_append_right _ List.mem_cons_self)
  by_cases names : context.NamesColumn test.field
  · obtain ⟨group, made⟩ := (exists_testGroup_iff test).mpr ⟨names, takes⟩
    cases made.symm.trans refused
  · obtain ⟨cause, astray⟩ := testGroup_of_not_namesColumn names
    cases (astray test rfl).symm.trans refused
    exact ⟨cause, rfl⟩

/-- Whatever the whitelist, the configuration and the body, a parsed query is not
refused by any resource: its filters, its search and its orders fail only where the
resource cannot serve them, and every test of it has a predicate on every column. Any
other filter list is refused exactly when the first of its tests without a condition has
a field that names a column and an operator that does not take its value. -/
theorem refusals_of_build (builder : Builder) :
    (∀ (whitelist : Whitelist) (config : Config) (body : Json) (query : Query),
      Request.parse whitelist config body = .ok query →
        NeverRefuses (filterGroup builder.context query.filters) ∧
        NeverRefuses (builder.searchResult query.search) ∧
        (∀ select, NeverRefuses (builder.applySorting query.sorting select).result) ∧
        ∀ test ∈ listTests query.filters, ∀ backend target,
          ∃ group, predicate backend target test = .ok group) ∧
    ∀ (filters : List Filter) (violations : List Violation),
      filterGroup builder.context filters = .error (.invalid violations) ↔
        ∃ before test after, listTests filters = before ++ test :: after ∧
          AllBuilt builder.context before ∧ builder.context.NamesColumn test.field ∧
          ¬ Takes test.operator test.value ∧ violations = [test.misfit] := by
  constructor
  · intro whitelist config body query parsed
    have fits := Request.takes_of_parse parsed
    refine ⟨neverRefuses_filterGroup fits, builder.neverRefuses_searchResult query.search,
      fun select => builder.neverRefuses_applySorting query.sorting select, ?_⟩
    intro test member backend target
    exact exists_predicate_of_takes backend target (fits test member)
  · exact fun filters violations => filterGroup_eq_invalid_iff filters violations

/-- Posts by authors. -/
def authoredPosts : Builder :=
  { resource :=
      { model :=
          { table := "posts"
            relations := [("author", .belongsTo "users" "author_id" "id")] }
        whitelist := { filterable := ["title", "author.*"] }
        catalog := [("users", { table := "users" })] }
    backend := .mysql }

/-- A body that asks, in a group, for a name out of a list given as a single value, and
beside it for a missing title. -/
def loneNameBody : Json :=
  .object
    [("filters", .array
        [.object
            [("nested", .array
                [.object
                    [("field", .text "author.name"), ("operator", .text "in"),
                      ("value", .text "core")]])],
          .object [("field", .text "title")]])]

/-- What the parser makes of the body is not refused; a comparison with a missing title,
which it does not make, is. -/
theorem refusals_of_build_authoredPosts :
    (∃ query, authoredPosts.parse loneNameBody = .ok query ∧
      (listTests query.filters).length = 2 ∧
      NeverRefuses (filterGroup authoredPosts.context query.filters)) ∧
    filterGroup authoredPosts.context [.test .and ⟨"title", .less, .null⟩] =
      .error (.invalid [⟨[.key "title"], .nullOperand "<"⟩]) := by
  have agreement := refusals_of_build authoredPosts
  constructor
  · have parsed : ∃ query, authoredPosts.parse loneNameBody = .ok query ∧
        (listTests query.filters).length = 2 := ⟨_, rfl, rfl⟩
    obtain ⟨query, made, both⟩ := parsed
    exact ⟨query, made, both, (agreement.1 _ _ _ query made).1⟩
  · refine (agreement.2 _ _).mpr ⟨[], ⟨"title", .less, .null⟩, [], rfl, ?_, trivial, ?_, rfl⟩
    · exact fun _ impossible => absurd impossible List.not_mem_nil
    · exact fun takes => (nomatch takes)

end QueryGate
