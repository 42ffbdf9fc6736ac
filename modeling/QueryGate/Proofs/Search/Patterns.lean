import QueryGate.Proofs.Build.Consistency
import QueryGate.Proofs.Build.Levels
import QueryGate.Proofs.Build.Progress
import QueryGate.Proofs.Build.Search
import QueryGate.Proofs.Sql.Evaluation

/-!
# The patterns of a search

A search looks for its term in the column of every searchable pattern that names one. A
pattern with a star names none, and neither does a pivot field where there is no pivot
table; these are passed over. Every other pattern has one condition (`SearchesBy`): the
test of its column in the root table or in the pivot table, or the existence of a row
that its path reaches and that passes the test. Where the path of a pattern without a
star goes astray (`GoesAstray`), the search as a whole fails.

The search is the disjunction of these conditions. So it is nothing exactly where every
pattern is passed over, and no search is ever the disjunction of nothing, which no row
would pass (`searchGroup_disjoins`). Which patterns are passed over, in which order the
others stand and how often they are named makes no difference to its truth.
-/

set_option autoImplicit false

namespace QueryGate

open Sql (Condition Group Junction Truth)

/-! ## One pattern -/

/-- Whether the pattern names a column to search in: it has no star, and is no pivot
field where there is no pivot table. -/
def Context.searches (context : Context) (pattern : String) : Bool :=
  !pattern.toList.contains '*' && (!(FieldPath.ofText pattern).isPivot || context.pivot.isSome)

/-- The pattern has a relation path, other than the name of the pivot table, that does
not resolve or that goes along a relation without a fixed table. -/
def Context.GoesAstray (context : Context) (pattern : String) : Prop :=
  ∃ path, (FieldPath.ofText pattern).relation = some path ∧ path ≠ pivotName ∧
    (¬ context.Resolves path ∨
      ∃ hops, context.resolve path = .ok hops ∧ ∃ hop ∈ hops, hop.relation.isLoose = true)

section Pattern

variable {context : Context} {term : SearchTerm} {pattern : String}

variable (context term pattern) in
/-- The test of the column of a pattern, in the rows of the given name. -/
def columnTest (name : String) : Condition :=
  textCondition context.backend (.column ⟨name, (FieldPath.ofText pattern).field⟩) term

variable (context term pattern) in
/-- The condition of a search for a term in a pattern: a test of the column in the root
table, in the pivot table, or in the last of the rows along the path of the pattern. For
the latter it is what asks for such a row anywhere, one level for each hop around the
test under the last alias. -/
inductive Context.SearchesBy : Condition → Prop where
  | root (own : (FieldPath.ofText pattern).relation = none) :
      SearchesBy (columnTest context term pattern context.root.table)
  | pivot {pivot : PivotTable} (through : (FieldPath.ofText pattern).relation = some pivotName)
      (listed : context.pivot = some pivot) :
      SearchesBy (columnTest context term pattern pivot.table)
  | related {path : String} {hops : List Hop} {levels : List HopLevel}
      (along : (FieldPath.ofText pattern).relation = some path) (other : path ≠ pivotName)
      (walked : context.resolve path = .ok hops) (follows : HopLevels context [] hops levels)
      (asked : context.pathExists path
          (fun name _ => .ok (.one (columnTest context term pattern name))) =
        .ok (nested (columnTest context term pattern (pathAlias (relationNames path))) levels)) :
      SearchesBy (nested (columnTest context term pattern (pathAlias (relationNames path))) levels)

theorem Context.searches_eq_false_iff :
    context.searches pattern = false ↔ '*' ∈ pattern.toList ∨
      (FieldPath.ofText pattern).relation = some pivotName ∧ context.pivot = none := by
  simp [searches, FieldPath.isPivot, or_iff_not_imp_left]

/-- A path reaches no rows where it does not resolve, and where one of its relations has
no fixed table. -/
theorem Context.not_reaches_iff {path : String} :
    ¬ context.Reaches path ↔ ¬ context.Resolves path ∨
      ∃ hops, context.resolve path = .ok hops ∧ ∃ hop ∈ hops, hop.relation.isLoose = true := by
  by_cases resolves : context.Resolves path
  · obtain ⟨hops, walked⟩ := resolves
    have fixed : context.Reaches path ↔ ∀ hop ∈ hops, hop.relation.isLoose = false :=
      (Context.joins_iff_reaches walked).symm.trans (Context.joins_iff_of_resolve walked)
    simp [fixed, Resolves, walked]
  · exact iff_of_true (mt Context.Reaches.resolves resolves) (.inl resolves)

/-- A search can go everywhere but where a path goes astray. -/
theorem Context.goesAstray_iff :
    context.GoesAstray pattern ↔ ¬ context.CanSearch (FieldPath.ofText pattern).relation := by
  unfold GoesAstray
  cases (FieldPath.ofText pattern).relation with
  | none => simp [CanSearch]
  | some path => simp [CanSearch, Context.not_reaches_iff]

/-- A search of a pattern fails exactly where the pattern has no star and its path goes
astray. -/
theorem failure_patternCondition_iff (context : Context) (term : SearchTerm) (pattern : String) :
    (∃ failure, (patternCondition context term pattern).result = .error failure) ↔
      '*' ∉ pattern.toList ∧ context.GoesAstray pattern := by
  constructor
  · rintro ⟨failure, failed⟩
    have plain : '*' ∉ pattern.toList := by
      intro star
      rw [patternCondition_of_star star] at failed
      cases failed
    refine ⟨plain, Context.goesAstray_iff.mpr fun served => ?_⟩
    obtain ⟨form, _, found⟩ := @patternCondition_of_canSearch context pattern fun _ => served
    rw [found] at failed
    cases failed
  · rintro ⟨plain, astray⟩
    obtain ⟨cause, failed⟩ :=
      patternCondition_of_not_canSearch plain (Context.goesAstray_iff.mp astray)
    exact ⟨_, failed term⟩

/-- A pattern that is passed over has no condition. -/
theorem patternCondition_of_not_searches (passed : context.searches pattern = false) :
    (patternCondition context term pattern).result = .ok none := by
  by_cases star : '*' ∈ pattern.toList
  · exact patternCondition_of_star star term
  · obtain ⟨through, unlisted⟩ := (Context.searches_eq_false_iff.mp passed).resolve_left star
    rw [result_patternCondition star, through, unlisted]
    rfl

/-- A test of a column is no junction, so no group takes a member out of it. -/
theorem unwrapped_columnTest (name : String) :
    (Group.one (columnTest context term pattern name)).toCondition.unwrapped =
      columnTest context term pattern name := by
  unfold columnTest textCondition
  cases term.caseSensitive <;> cases context.backend <;> rfl

/-- What asks for a row along a path that passes a test is one level for each hop around
the test under the last alias. -/
theorem exists_levels_of_pathExists {path : String} {condition : Condition}
    (asks : context.pathExists path
      (fun name _ => .ok (.one (columnTest context term pattern name))) = .ok condition) :
    ∃ hops levels, context.resolve path = .ok hops ∧ HopLevels context [] hops levels ∧
      condition =
        nested (columnTest context term pattern (pathAlias (relationNames path))) levels := by
  have reaches : context.Reaches path := by
    by_contra astray
    obtain ⟨cause, refused⟩ := Context.pathExists_of_not_reaches astray
    rw [refused] at asks
    cases asks
  obtain ⟨hops, walked⟩ := reaches.resolves
  obtain ⟨levels, last, follows, _, asked⟩ := Context.pathExists_eq_nested walked
    ((Context.joins_iff_reaches walked).mpr reaches)
  rw [asked] at asks
  obtain ⟨group, tested, rfl⟩ := (Success.map_eq_ok_iff _ _ _).mp asks
  cases tested
  exact ⟨hops, levels, walked, follows, congrArg (nested · levels) (unwrapped_columnTest _)⟩

/-- Every other pattern has its condition, unless its search fails. -/
theorem searchesBy_of_patternCondition {condition? : Option Condition}
    (searches : context.searches pattern = true)
    (made : (patternCondition context term pattern).result = .ok condition?) :
    ∃ condition, condition? = some condition ∧ context.SearchesBy term pattern condition := by
  have passes := mt Context.searches_eq_false_iff.mpr (by rw [searches]; simp)
  obtain ⟨plain, listed⟩ := not_or.mp passes
  have found := @result_patternCondition context pattern plain term
  rw [made] at found
  cases along : (FieldPath.ofText pattern).relation with
  | none =>
      rw [along] at found
      cases found
      exact ⟨_, rfl, .root along⟩
  | some path =>
      rw [along] at found listed
      by_cases pivots : path = pivotName
      · subst pivots
        obtain ⟨pivot, listed⟩ :=
          Option.ne_none_iff_exists'.mp fun unlisted => listed ⟨rfl, unlisted⟩
        simp only [if_pos, listed, Option.map_some] at found
        cases found
        exact ⟨_, rfl, .pivot along listed⟩
      · simp only [if_neg pivots] at found
        obtain ⟨condition, asks, rfl⟩ := (Success.map_eq_ok_iff _ _ _).mp found.symm
        obtain ⟨hops, levels, walked, follows, rfl⟩ := exists_levels_of_pathExists asks
        exact ⟨_, rfl, .related along pivots walked follows asks⟩

end Pattern

/-! ## All patterns -/

/-- The disjunction of conditions, if there are any. -/
def disjunction? (conditions : List Condition) : Option Group :=
  if conditions.isEmpty then none else some (conditions.foldl Group.add .any)

theorem disjunction?_eq_none_iff (conditions : List Condition) :
    disjunction? conditions = none ↔ conditions = [] := by
  simp [disjunction?]

/-- A disjunction is as true as its members together. -/
theorem map_truth_disjunction? (atom : Condition → Truth) (conditions : List Condition) :
    (disjunction? conditions).map (fun group => group.truth atom) =
      if conditions = [] then none
      else
        some (Junction.any.combineAll
          (conditions.map fun condition => condition.truth atom)) := by
  have together : (conditions.foldl Group.add .any).truth atom =
      Junction.any.combineAll (conditions.map fun condition => condition.truth atom) := by
    rw [Group.truth_foldl_add, Group.truth_any]
    exact Junction.unit_combine .any _
  unfold disjunction?
  cases conditions with
  | nil => rfl
  | cons condition conditions => exact congrArg some together

section Patterns

variable {context : Context} {term : SearchTerm} {patterns : List String}

theorem result_searchGroup :
    (searchGroup context patterns term).result =
      (searchConditions context term patterns).result.map disjunction? := by
  rw [searchGroup, Outcome.result_bind]
  cases (searchConditions context term patterns).result <;> rfl

/-- A search fails exactly where it fails in one of the patterns. -/
theorem failure_searchConditions_iff (context : Context) (term : SearchTerm)
    (patterns : List String) :
    (∃ failure, (searchConditions context term patterns).result = .error failure) ↔
      ∃ pattern ∈ patterns, '*' ∉ pattern.toList ∧ context.GoesAstray pattern := by
  have fails {α : Type} (result : Except Failure α) :
      (∃ failure, result = .error failure) ↔ (Success.failure? result).isSome = true := by
    simp only [Option.isSome_iff_exists, Success.failure?_eq_some_iff]
  simp only [← failure_patternCondition_iff context term, fails, failure?_searchConditions,
    List.isSome_findSome?, List.any_eq_true]

/-- The conditions of a search are those of the patterns that it does not pass over, in
their order. -/
theorem searchesBy_of_searchConditions {conditions : List Condition}
    (made : (searchConditions context term patterns).result = .ok conditions) :
    List.Forall₂ (context.SearchesBy term) (patterns.filter context.searches) conditions := by
  induction patterns generalizing conditions with
  | nil =>
      cases made
      exact .nil
  | cons pattern patterns ih =>
      rw [result_searchConditions_cons] at made
      obtain ⟨condition?, here, made⟩ := (Success.bind_eq_ok_iff _ _ _).mp made
      obtain ⟨rest, there, rfl⟩ := (Success.map_eq_ok_iff _ _ _).mp made
      cases searches : context.searches pattern with
      | false =>
          rw [patternCondition_of_not_searches searches] at here
          cases here
          rw [List.filter_cons_of_neg (by simp [searches])]
          exact ih there
      | true =>
          obtain ⟨condition, rfl, found⟩ := searchesBy_of_patternCondition searches here
          rw [List.filter_cons_of_pos searches]
          exact .cons found (ih there)

/-- The patterns that are passed over make no difference. -/
theorem searchConditions_filter :
    (searchConditions context term (patterns.filter context.searches)).result =
      (searchConditions context term patterns).result := by
  induction patterns with
  | nil => rfl
  | cons pattern patterns ih =>
      cases searches : context.searches pattern with
      | false =>
          rw [List.filter_cons_of_neg (by simp [searches]), ih, result_searchConditions_cons,
            patternCondition_of_not_searches searches]
          cases (searchConditions context term patterns).result <;> rfl
      | true =>
          rw [List.filter_cons_of_pos searches, result_searchConditions_cons, ih,
            ← result_searchConditions_cons]

/-- Lists of the same patterns make disjunctions that are true in the same rows. -/
theorem map_truth_searchGroup_congr {others : List String} {group? : Option Group}
    (same : ∀ pattern, pattern ∈ others ↔ pattern ∈ patterns)
    (made : (searchGroup context patterns term).result = .ok group?) :
    ∃ again?, (searchGroup context others term).result = .ok again? ∧
      ∀ atom : Condition → Truth, again?.map (fun group => group.truth atom) =
        group?.map fun group => group.truth atom := by
  rw [result_searchGroup] at made
  obtain ⟨conditions, each, rfl⟩ := (Success.map_eq_ok_iff _ _ _).mp made
  have found := (truths_searchConditions (fun _ => .unknown) each).1
  obtain ⟨again, remade⟩ := exists_searchConditions term fun pattern member =>
    found pattern ((same pattern).mp member)
  refine ⟨disjunction? again, ?_, fun atom => ?_⟩
  · rw [result_searchGroup, remade]
    rfl
  · -- The conditions may differ in order and number, but not in the truths that they have.
    have truths := (truths_searchConditions atom each).2
    have againTruths := (truths_searchConditions atom remade).2
    have members (truth : Truth) : truth ∈ again.map (fun condition => condition.truth atom) ↔
        truth ∈ conditions.map (fun condition => condition.truth atom) := by
      rw [truths, againTruths]
      simp only [List.mem_filterMap, same]
    have empty : again = [] ↔ conditions = [] := by
      rw [← List.map_eq_nil_iff (f := fun condition => condition.truth atom),
        List.eq_nil_iff_forall_not_mem]
      simp only [members, ← List.eq_nil_iff_forall_not_mem, List.map_eq_nil_iff]
    rw [map_truth_disjunction?, map_truth_disjunction?, Junction.combineAll_congr .any members]
    simp only [empty]

end Patterns

/-- A search fails exactly where a pattern without a star has a path that goes astray.
Otherwise it is nothing exactly where every pattern is passed over, and else it is as
true as the disjunction of the conditions of the other patterns, one for each. Only the
patterns that it does not pass over count, and of these neither the order nor the
repetition. -/
theorem searchGroup_disjoins (context : Context) (searchable : List String) (term : SearchTerm) :
    ((∃ failure, (searchGroup context searchable term).result = .error failure) ↔
      ∃ pattern ∈ searchable, '*' ∉ pattern.toList ∧ context.GoesAstray pattern) ∧
    (∀ group?, (searchGroup context searchable term).result = .ok group? →
      (group? = none ↔ ∀ pattern ∈ searchable, context.searches pattern = false) ∧
      ∃ conditions,
        List.Forall₂ (context.SearchesBy term) (searchable.filter context.searches) conditions ∧
        ∀ group, group? = some group → ∀ atom : Condition → Truth,
          group.truth atom =
            Junction.any.combineAll (conditions.map fun condition => condition.truth atom)) ∧
    (searchGroup context (searchable.filter context.searches) term).result =
      (searchGroup context searchable term).result ∧
    ∀ others : List String, (∀ pattern, pattern ∈ others ↔ pattern ∈ searchable) →
      ∀ group?, (searchGroup context searchable term).result = .ok group? →
        ∃ again?, (searchGroup context others term).result = .ok again? ∧
          ∀ atom : Condition → Truth, again?.map (fun group => group.truth atom) =
            group?.map fun group => group.truth atom := by
  refine ⟨?_, ?_, ?_, fun others same group? made => map_truth_searchGroup_congr same made⟩
  · simp only [← failure_searchConditions_iff context term, result_searchGroup,
      Success.map_eq_error_iff]
  · intro group? made
    rw [result_searchGroup] at made
    obtain ⟨conditions, each, rfl⟩ := (Success.map_eq_ok_iff _ _ _).mp made
    have all := searchesBy_of_searchConditions each
    constructor
    · rw [disjunction?_eq_none_iff, ← List.length_eq_zero_iff, ← all.length_eq,
        List.length_eq_zero_iff, List.filter_eq_nil_iff]
      simp only [Bool.not_eq_true]
    · refine ⟨conditions, all, fun group here atom => ?_⟩
      have truths := map_truth_disjunction? atom conditions
      rw [here] at truths
      split at truths
      · cases truths
      · exact Option.some.inj truths
  · rw [result_searchGroup, result_searchGroup, searchConditions_filter]

/-- Tags of teams, which are listed without a pivot table. -/
def teamTags : Context :=
  { backend := .sqlite
    root := { table := "tags", relations := [("team", .belongsTo "teams" "team_id" "id")] }
    catalog := [("teams", { table := "teams" })] }

/-- A search in two columns asks for one or the other, whichever of them is named first,
however often, and whatever is named beside them that it passes over. -/
theorem searchGroup_disjoins_teamTags :
    ∃ group again name team,
      (searchGroup teamTags ["team.*", "name", "pivot.note", "team.name"] ⟨"core", true⟩).result =
        .ok (some group) ∧
      (searchGroup teamTags ["team.name", "pivot.note", "name", "team.name", "team.*"]
          ⟨"core", true⟩).result = .ok (some again) ∧
      teamTags.SearchesBy ⟨"core", true⟩ "name" name ∧
      teamTags.SearchesBy ⟨"core", true⟩ "team.name" team ∧
      ∀ atom : Condition → Truth,
        group.truth atom = (name.truth atom).either (team.truth atom) ∧
          again.truth atom = group.truth atom := by
  have builds : ∃ group,
      (searchGroup teamTags ["team.*", "name", "pivot.note", "team.name"] ⟨"core", true⟩).result =
        .ok (some group) :=
    ⟨_, rfl⟩
  obtain ⟨group, made⟩ := builds
  obtain ⟨_, disjoins, _, alike⟩ := searchGroup_disjoins teamTags
    ["team.*", "name", "pivot.note", "team.name"] ⟨"core", true⟩
  obtain ⟨_, conditions, each, truth⟩ := disjoins _ made
  have served : ["team.*", "name", "pivot.note", "team.name"].filter teamTags.searches =
      ["name", "team.name"] := by decide
  rw [served] at each
  obtain _ | ⟨byName, _ | ⟨byTeam, _ | _⟩⟩ := each
  obtain ⟨again?, remade, same⟩ := alike
    ["team.name", "pivot.note", "name", "team.name", "team.*"] (by simp; tauto) _ made
  cases again? with
  | none => cases same fun _ => .holds
  | some again =>
      refine ⟨group, again, _, _, made, remade, byName, byTeam, fun atom => ⟨?_, ?_⟩⟩
      · rw [truth group rfl atom]
        exact congrArg (Truth.either _) (Junction.combine_unit .any _)
      · exact Option.some.inj (same atom)

end QueryGate
