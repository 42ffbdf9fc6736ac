import QueryGate.Proofs.Build.Agreement
import QueryGate.Proofs.Build.Restriction
import QueryGate.Proofs.Model.Pattern

/-!
# Resources that serve everything they admit

A resource is consistent when its patterns are of the plain kinds, the paths that they
name can be walked, and every scope that it exposes is registered. What the whitelist of
a consistent resource admits can then be built: each test has a column, each order and
each searched pattern has a path that resolves, and each scope that is called is there.
Only the scopes themselves can still fail (`failure_of_build_consistent`).
-/

set_option autoImplicit false

namespace QueryGate

open QueryGate.Filter (listTests)

/-! ## Searches and orders that can be served -/

/-- An order can go along the relation path, if there is one: it is the name of the
pivot table, or resolves. -/
def Context.CanOrder (context : Context) : Option String → Prop
  | none => True
  | some path => path = pivotName ∨ context.Resolves path

section Stages

variable {context : Context}

theorem exists_searchConditions (term : SearchTerm) {patterns : List String}
    (each : ∀ pattern ∈ patterns,
      ∃ condition, (patternCondition context term pattern).result = .ok condition) :
    ∃ conditions, (searchConditions context term patterns).result = .ok conditions := by
  induction patterns with
  | nil => exact ⟨[], rfl⟩
  | cons pattern patterns ih =>
      obtain ⟨⟨condition, here⟩, later⟩ := List.forall_mem_cons.mp each
      obtain ⟨conditions, there⟩ := ih later
      refine ⟨condition.toList ++ conditions, ?_⟩
      rw [result_searchConditions_cons, here, there]
      rfl

/-- An order that can go along its path adds to every plan. -/
theorem SortPlan.exists_addKey (plan : SortPlan) {key : SortKey}
    (served : context.CanOrder (FieldPath.ofText key.field).relation) :
    ∃ next, plan.addKey context key = .ok next := by
  unfold addKey
  dsimp only
  split
  · exact ⟨_, rfl⟩
  · next path along =>
      split
      · split <;> exact ⟨_, rfl⟩
      · next other =>
          have resolves := (along ▸ served : context.CanOrder (some path))
          obtain ⟨hops, walked⟩ := resolves.resolve_left other
          rw [walked]
          exact ⟨_, rfl⟩

theorem SortPlan.exists_addKeys {keys : List SortKey}
    (each : ∀ key ∈ keys, ∀ plan : SortPlan, ∃ next, plan.addKey context key = .ok next)
    (plan : SortPlan) : ∃ final, addKeys context plan keys = (final, none) := by
  induction keys generalizing plan with
  | nil => exact ⟨plan, rfl⟩
  | cons key keys ih =>
      obtain ⟨here, later⟩ := List.forall_mem_cons.mp each
      obtain ⟨next, added⟩ := here plan
      rw [addKeys, added]
      exact ih later next

end Stages

/-! ## Scopes -/

/-- Where every scope that is called is registered, a failure is one of a scope. -/
theorem failure_of_scopeGroups {registry : ScopeRegistry} {calls : List ScopeCall}
    {position : Nat} {failure : Failure}
    (registered : ∀ call ∈ calls, (registry.lookup call.name).isSome = true)
    (failed : scopeGroups registry position calls = .error failure) :
    ∃ call ∈ calls.zipIdx position, ∃ scope, registry.lookup call.1.name = some scope ∧
      scope ⟨call.2, call.1.name, call.1.parameters⟩ = .error failure := by
  rw [scopeGroups_eq_mapM, Success.mapM_eq_error_iff] at failed
  obtain ⟨before, call, after, split, _, called⟩ := failed
  have among : call ∈ calls.zipIdx position :=
    split ▸ List.mem_append_right before List.mem_cons_self
  obtain ⟨scope, found⟩ :=
    Option.isSome_iff_exists.mp (registered call.1 (List.fst_mem_of_mem_zipIdx among))
  rw [callGroup, found] at called
  exact ⟨call, among, scope, found, called⟩

/-! ## Builds -/

/-- Where the other stages succeed, a build fails only in its scopes. -/
theorem Builder.failure_of_build (builder : Builder) {query : Query} {operation : Operation}
    {select : Sql.Select} {failure : Failure}
    (filters : ∃ group, filterGroup builder.context query.filters = .ok group)
    (search : ∃ group, builder.searchResult query.search = .ok group)
    (sorting : ∃ plan, builder.sortResult query.sorting = .ok plan)
    (failed : (builder.build query operation select).result = .error failure) :
    scopeGroup builder.resource.scopes query.scopes = .error failure := by
  obtain ⟨filters, filtered⟩ := filters
  obtain ⟨search, searched⟩ := search
  obtain ⟨plan, sorted⟩ := sorting
  have parts : builder.makeParts query =
      (scopeGroup builder.resource.scopes query.scopes).map
        fun scopes => ⟨scopes, filters, search, plan⟩ := by
    rw [makeParts, filtered, searched, sorted]
    cases scopeGroup builder.resource.scopes query.scopes <;> rfl
  rw [result_build, Success.map_eq_error_iff, makePartsFor] at failed
  split at failed
  · exact (Success.map_eq_error_iff _ _ _).mp (parts ▸ failed)
  · cases failed

/-- What a resource has to keep to in order to serve everything that it admits. -/
structure Builder.Consistent (builder : Builder) : Prop where
  filterable : ∀ pattern ∈ builder.resource.whitelist.filterable,
    ∃ relation, NamesPath pattern relation ∧ builder.context.HasColumns relation
  sortable : ∀ pattern ∈ builder.resource.whitelist.sortable,
    ∃ relation, NamesPath pattern relation ∧ builder.context.CanOrder relation
  searchable : ∀ pattern ∈ builder.resource.whitelist.searchable, '*' ∉ pattern.toList →
    builder.context.CanSearch (FieldPath.ofText pattern).relation
  exposed : ∀ pattern ∈ builder.resource.whitelist.exposed,
    '*' ∉ pattern.toList ∧ (builder.resource.scopes.lookup pattern).isSome = true

namespace Builder.Consistent

variable {builder : Builder} {body : Json} {query : Query}

/-- Every test of a parsed query has a condition. -/
theorem exists_filterGroup (consistent : builder.Consistent)
    (parsed : builder.parse body = .ok query) :
    ∃ group, filterGroup builder.context query.filters = .ok group := by
  refine (exists_filterGroup_iff query.filters).mpr fun test member => ?_
  have admitted := (Request.tests_of_parse parsed test member).admitted
  refine (exists_testGroup_iff test).mpr ⟨?_, Request.takes_of_parse parsed test member⟩
  exact relation_of_isWhitelisted consistent.filterable admitted

theorem exists_searchResult (consistent : builder.Consistent) (term : Option SearchTerm) :
    ∃ group, builder.searchResult term = .ok group := by
  cases term with
  | none => exact ⟨none, rfl⟩
  | some term =>
      have each : ∀ pattern ∈ builder.resource.whitelist.searchable,
          ∃ condition, (patternCondition builder.context term pattern).result = .ok condition := by
        intro pattern member
        obtain ⟨form, _, found⟩ :=
          patternCondition_of_canSearch (consistent.searchable pattern member)
        exact ⟨form term, found term⟩
      obtain ⟨conditions, made⟩ := exists_searchConditions term each
      exact ⟨_, (Outcome.result_bind_eq_ok_iff _ _ _).mpr ⟨conditions, made, rfl⟩⟩

/-- Every order of a parsed query can be planned. -/
theorem exists_sortResult (consistent : builder.Consistent)
    (parsed : builder.parse body = .ok query) :
    ∃ plan, builder.sortResult query.sorting = .ok plan := by
  have each : ∀ key ∈ query.sorting, ∀ plan : SortPlan,
      ∃ next, plan.addKey builder.context key = .ok next := by
    intro key member plan
    have admitted := (Request.orders_of_parse parsed key member).admitted
    exact plan.exists_addKey (relation_of_isWhitelisted consistent.sortable admitted)
  obtain ⟨final, planned⟩ := SortPlan.exists_addKeys each {}
  exact ⟨final, by rw [sortResult, sortPlan, planned]⟩

/-- Every scope that a parsed query calls is registered. -/
theorem isSome_lookup (consistent : builder.Consistent)
    (parsed : builder.parse body = .ok query) :
    ∀ call ∈ query.scopes, (builder.resource.scopes.lookup call.name).isSome = true := by
  intro call member
  have among := mem_of_isWhitelisted (fun pattern among => (consistent.exposed pattern among).1)
    (Request.scopes_of_parse parsed call member)
  exact (consistent.exposed call.name among).2

end Builder.Consistent

/-- The builds of a consistent resource for a parsed query fail only where a scope that
the query calls does, and with the failure of this scope. So nothing is found wrong with
the set-up of the resource, unless a scope says so itself. -/
theorem failure_of_build_consistent (builder : Builder) (consistent : builder.Consistent)
    (body : Json) (query : Query) (parsed : builder.parse body = .ok query)
    (operation : Operation) (select : Sql.Select) :
    (∀ failure, (builder.build query operation select).result = .error failure →
      ∃ call ∈ query.scopes.zipIdx, ∃ scope,
        builder.resource.scopes.lookup call.1.name = some scope ∧
          scope ⟨call.2, call.1.name, call.1.parameters⟩ = .error failure) ∧
    ((∀ name scope arguments cause, builder.resource.scopes.lookup name = some scope →
        scope arguments ≠ .error (.misconfigured cause)) →
      ∀ cause, (builder.build query operation select).result ≠ .error (.misconfigured cause)) := by
  have fails : ∀ failure, (builder.build query operation select).result = .error failure →
      ∃ call ∈ query.scopes.zipIdx, ∃ scope,
        builder.resource.scopes.lookup call.1.name = some scope ∧
          scope ⟨call.2, call.1.name, call.1.parameters⟩ = .error failure := by
    intro failure failed
    have called := builder.failure_of_build (consistent.exists_filterGroup parsed)
      (consistent.exists_searchResult query.search) (consistent.exists_sortResult parsed) failed
    unfold scopeGroup at called
    split at called
    · cases called
    · exact failure_of_scopeGroups (consistent.isSome_lookup parsed)
        ((Success.map_eq_error_iff _ _ _).mp called)
  refine ⟨fails, fun sound cause failed => ?_⟩
  obtain ⟨call, _, scope, found, called⟩ := fails _ failed
  exact sound call.1.name scope _ cause found called

/-- Posts of a tag, listed through a pivot table. Their owners have no fixed table, so
they can be ordered by but not filtered. -/
def taggedPosts : Builder :=
  { resource :=
      { model :=
          { table := "posts"
            relations :=
              [("author", .belongsTo "users" "author_id" "id"), ("owner", .polymorphicTo "owner")] }
        whitelist :=
          { filterable := ["title", "author.*", "pivot.*"]
            sortable := ["owner.*"]
            searchable := ["*", "author.name"]
            exposed := ["recent"] }
        scopes :=
          [("recent", fun arguments =>
            (arguments.int 0).map fun year =>
              .one (.compare .atLeast (.column ⟨"posts", "year"⟩) (.value (.int year.toInt))))]
        catalog := [("users", { table := "users" })] }
    backend := .postgres
    pivot := some { table := "post_tag" } }

theorem reaches_author : taggedPosts.context.Reaches "author" :=
  ⟨_, rfl, List.forall_mem_singleton.mpr rfl⟩

theorem consistent_taggedPosts : taggedPosts.Consistent where
  filterable := by
    refine List.forall_mem_cons.mpr ⟨⟨_, .exact (by decide), trivial⟩, ?_⟩
    refine List.forall_mem_cons.mpr ⟨⟨_, @NamesPath.below "author" (by decide), ?_⟩, ?_⟩
    · exact reaches_author
    · exact List.forall_mem_singleton.mpr ⟨_, @NamesPath.below "pivot" (by decide), rfl⟩
  sortable :=
    List.forall_mem_singleton.mpr ⟨_, @NamesPath.below "owner" (by decide), .inr ⟨_, rfl⟩⟩
  searchable := by
    refine List.forall_mem_cons.mpr ⟨fun plain => absurd List.mem_cons_self plain, ?_⟩
    exact List.forall_mem_singleton.mpr fun _ => .inr reaches_author
  exposed := List.forall_mem_singleton.mpr ⟨by decide, rfl⟩

/-- A body with a test below the author, an order by the owner, a search and a call of
the scope with a year that is none. -/
def badYearBody : Json :=
  .object
    [("filters", .array [.object [("field", .text "author.name"), ("value", .text "Lean")]]),
      ("scopes", .array
        [.object [("name", .text "recent"), ("parameters", .array [.text "soon"])]]),
      ("search", .object [("value", .text "proof")]),
      ("sort", .array [.object [("field", .text "owner.name")]])]

/-- Only the scope turns the list down, and for a parameter that it cannot take. -/
theorem failure_of_build_consistent_taggedPosts :
    ∃ query, taggedPosts.parse badYearBody = .ok query ∧ ∀ select failure,
      (taggedPosts.build query .index select).result = .error failure →
        failure = .violation
          [.key "scopes", .index 0, .key "parameters", .index 0] (.parameterKind "an integer") := by
  have parsed : ∃ query, taggedPosts.parse badYearBody = .ok query ∧
      query.scopes = [⟨"recent", [.text "soon"]⟩] := ⟨_, rfl, rfl⟩
  obtain ⟨query, made, called⟩ := parsed
  refine ⟨query, made, fun select failure failed => ?_⟩
  obtain ⟨fails, _⟩ := failure_of_build_consistent taggedPosts consistent_taggedPosts badYearBody
    query made .index select
  obtain ⟨call, among, scope, found, refused⟩ := fails failure failed
  rw [called] at among
  cases List.mem_singleton.mp among
  cases found
  exact (Except.error.inj refused).symm

end QueryGate
