import QueryGate.Proofs.Build.Existence

/-!
# The levels of a condition along a path

A condition on a row that a path reaches is existence conditions one in the next, a
level for each hop. A level takes its rows from the related table under the alias of the
path so far, by way of the pivot table for a many-to-many relation. It asks for the
equality of the keys, for the class where the relation is polymorphic, for a row that is
not deleted where the related model marks deleted rows, and besides for nothing but the
next level. The innermost level asks for the condition that was to hold of the last row
(`relatedExists_nests`).

`Relation.level?` is the table of what a level is for each kind of relation. The
condition itself is built from `JoinKeys`, which forget the kind.
-/

set_option autoImplicit false

namespace QueryGate

/-! ## Levels -/

/-- The rows that one hop asks for, and what it asks of them besides the next hop. -/
structure HopLevel where
  source : Sql.Source
  link : Option Sql.Link := none
  standing : List Sql.Condition

/-- Existence conditions one in the next, around an innermost condition. -/
def nested (innermost : Sql.Condition) : List HopLevel → Sql.Condition
  | [] => innermost
  | level :: levels =>
      .existsRow level.source level.link
        (.junction .all (level.standing ++ [nested innermost levels]))

/-- The level that a condition makes of the keys of a hop. -/
def JoinKeys.level (keys : JoinKeys) (related : Model) (hopAlias parentName : String) :
    HopLevel where
  source := (keys.sources hopAlias).1
  link := (keys.sources hopAlias).2
  standing := keys.standing related hopAlias parentName

/-- The condition that a row is of a class. -/
def classCheck (hopAlias column className : String) : Sql.Condition :=
  .compare .equal (.column ⟨hopAlias, column⟩) (.value (.text className))

/-- The conditions that a row is not deleted: one for the column of deletion, if there
is one. -/
def Model.liveChecks (model : Model) (hopAlias : String) : List Sql.Condition :=
  model.softDelete.toList.map fun column => .isNull false (.column ⟨hopAlias, column⟩)

namespace Relation

/-- The condition that a row is of the class that the relation looks at, for a
polymorphic relation. -/
def classChecks (hopAlias : String) : Relation → List Sql.Condition
  | morphOne _ typeColumn _ className _ | morphMany _ typeColumn _ className _ =>
      [classCheck hopAlias typeColumn className]
  | _ => []

/-- The level of a hop along a relation to a model, under an alias, from the rows of the
given name. There is none for a relation without a fixed table. -/
def level? (relation : Relation) (related : Model) (hopAlias parentName : String) :
    Option HopLevel :=
  let standing (key parentKey : Sql.Column) : List Sql.Condition :=
    columnsEqual key parentKey :: (relation.classChecks hopAlias ++ related.liveChecks hopAlias)
  match relation with
  | hasOne table foreignKey localKey | hasMany table foreignKey localKey =>
      some
        { source := ⟨table, some hopAlias⟩
          standing := standing ⟨hopAlias, foreignKey⟩ ⟨parentName, localKey⟩ }
  | belongsTo table foreignKey ownerKey =>
      some
        { source := ⟨table, some hopAlias⟩
          standing := standing ⟨hopAlias, ownerKey⟩ ⟨parentName, foreignKey⟩ }
  | belongsToMany table pivot foreignPivotKey relatedPivotKey parentKey relatedKey =>
      some
        { source := ⟨pivot, some (pivotAlias hopAlias)⟩
          link := some
            { source := ⟨table, some hopAlias⟩
              left := ⟨pivotAlias hopAlias, relatedPivotKey⟩
              right := ⟨hopAlias, relatedKey⟩ }
          standing := standing ⟨pivotAlias hopAlias, foreignPivotKey⟩ ⟨parentName, parentKey⟩ }
  | morphOne table _ idColumn _ localKey | morphMany table _ idColumn _ localKey =>
      some
        { source := ⟨table, some hopAlias⟩
          standing := standing ⟨hopAlias, idColumn⟩ ⟨parentName, localKey⟩ }
  | morphTo _ _ => none

/-- Whether the relation looks at the class of the parent. -/
def hasClass : Relation → Bool
  | morphOne _ _ _ _ _ | morphMany _ _ _ _ _ => true
  | _ => false

/-- Whether the rows themselves name the related table. -/
def isLoose : Relation → Bool
  | morphTo _ _ => true
  | _ => false

theorem joinKeys?_isSome_iff (relation : Relation) :
    relation.joinKeys?.isSome = true ↔ relation.isLoose = false := by
  cases relation <;> simp [joinKeys?, isLoose]

variable {relation : Relation} {related : Model} {hopAlias parentName : String}
  {level : HopLevel}

/-- Every level asks for two equal columns, then for the class, and then for a row that
is not deleted. -/
theorem standing_of_level? (made : relation.level? related hopAlias parentName = some level) :
    ∃ key parentKey, level.standing =
      columnsEqual key parentKey ::
        (relation.classChecks hopAlias ++ related.liveChecks hopAlias) := by
  cases relation <;> cases made <;> exact ⟨_, _, rfl⟩

/-- What a build takes from the keys of a relation is the level of the relation. -/
theorem level?_of_joinKeys {keys : JoinKeys} (joined : relation.joinKeys? = some keys) :
    relation.level? related hopAlias parentName =
      some (keys.level related hopAlias parentName) := by
  have live : related.liveChecks hopAlias = (related.liveCondition? hopAlias).toList := by
    unfold Model.liveChecks Model.liveCondition?
    cases related.softDelete <;> rfl
  cases relation <;> cases joined <;> simp only [level?, live] <;> rfl

end Relation

/-- The level is that of a hop to a model. It checks the class exactly where the relation
looks at it, and the column of deletion exactly where the model has one. -/
structure HopLevel.Serves (level : HopLevel) (hop : Hop) (related : Model)
    (hopAlias parentName : String) : Prop where
  made : hop.relation.level? related hopAlias parentName = some level
  checksClass : (∃ column className, classCheck hopAlias column className ∈ level.standing) ↔
    hop.relation.hasClass = true
  checksLive : ∀ column, .isNull false (.column ⟨hopAlias, column⟩) ∈ level.standing ↔
    related.softDelete = some column

/-- The level that the table gives for a hop is that of the hop. -/
theorem HopLevel.serves_of_made {level : HopLevel} {hop : Hop} {related : Model}
    {hopAlias parentName : String}
    (made : hop.relation.level? related hopAlias parentName = some level) :
    level.Serves hop related hopAlias parentName := by
  have noLive (column className : String) :
      classCheck hopAlias column className ∉ related.liveChecks hopAlias := by
    simp [Model.liveChecks, classCheck]
  have noClass (column : String) : .isNull false (.column ⟨hopAlias, column⟩) ∉
      hop.relation.classChecks hopAlias := by
    cases hop.relation <;> simp [Relation.classChecks, classCheck]
  obtain ⟨key, parentKey, standing⟩ := Relation.standing_of_level? made
  refine ⟨made, ?_, ?_⟩
  · simp only [standing, List.mem_cons, List.mem_append, noLive, or_false]
    cases hop.relation <;>
      simp [Relation.classChecks, Relation.hasClass, classCheck, columnsEqual]
  · intro column
    simp [standing, noClass, columnsEqual, Model.liveChecks]

/-- The levels are those of the hops, one for each, from the row that the path before
them reaches. -/
inductive HopLevels (context : Context) : List String → List Hop → List HopLevel → Prop where
  | nil (before : List String) : HopLevels context before [] []
  | cons {before : List String} {hop : Hop} {related : Model} {level : HopLevel}
      {hops : List Hop} {levels : List HopLevel} (reached : hop.related = some related)
      (serves : level.Serves hop related (pathAlias (before ++ [hop.name]))
        (context.rowName before))
      (rest : HopLevels context (before ++ [hop.name]) hops levels) :
      HopLevels context before (hop :: hops) (level :: levels)

theorem HopLevels.length_eq {context : Context} {before : List String} {hops : List Hop}
    {levels : List HopLevel} (follows : HopLevels context before hops levels) :
    levels.length = hops.length := by
  induction follows with
  | nil before => rfl
  | cons reached serves rest ih => simp only [List.length_cons, ih]

/-- The level at a place is that of the hop there, under the alias of the names up to it. -/
theorem HopLevels.serves_at {context : Context} {before : List String} {hops : List Hop}
    {levels : List HopLevel} (follows : HopLevels context before hops levels) :
    ∀ (index : Nat) (hop : Hop) (level : HopLevel),
      hops[index]? = some hop → levels[index]? = some level →
      ∃ related, hop.related = some related ∧
        level.Serves hop related (pathAlias (before ++ (hops.map Hop.name).take (index + 1)))
          (context.rowName (before ++ (hops.map Hop.name).take index)) := by
  induction follows with
  | nil before =>
      intro index hop level found
      cases found
  | cons reached serves rest ih =>
      intro index hop level found beside
      cases index with
      | zero =>
          cases found
          cases beside
          refine ⟨_, reached, ?_⟩
          rw [List.take_zero, List.append_nil]
          exact serves
      | succ index =>
          obtain ⟨related, led, serves⟩ := ih index hop level found beside
          rw [List.append_assoc, List.append_assoc] at serves
          exact ⟨related, led, serves⟩

/-! ## Conditions along hops -/

/-- A junction is the only condition that gives up a member. -/
theorem Sql.Group.foldl_add_of_unwrapped {conditions : List Sql.Condition}
    (plain : ∀ condition ∈ conditions, condition.unwrapped = condition) (group : Sql.Group) :
    conditions.foldl Sql.Group.add group = ⟨group.kind, group.members ++ conditions⟩ := by
  induction conditions generalizing group with
  | nil => rw [List.append_nil]; rfl
  | cons condition conditions ih =>
      obtain ⟨here, later⟩ := List.forall_mem_cons.mp plain
      rw [List.foldl_cons, ih later]
      simp [Sql.Group.add, here]

theorem unwrapped_of_mem_standing (keys : JoinKeys) (related : Model)
    (hopAlias parentName : String) :
    ∀ condition ∈ keys.standing related hopAlias parentName, condition.unwrapped = condition := by
  simp only [JoinKeys.standing, JoinKeys.classCondition?, Model.liveCondition?]
  cases keys.morph <;> cases related.softDelete <;>
    simp [Sql.Condition.unwrapped, JoinKeys.tie, columnsEqual]

/-- The existence of a row of one hop is one level around what is asked of the row. -/
theorem hopExists_eq_nested {hop : Hop} {keys : JoinKeys} (related : Model)
    (joined : hop.relation.joinKeys? = some keys) (hopAlias parentName : String) :
    ∃ level : HopLevel, level.Serves hop related hopAlias parentName ∧
      ∀ inner, hopExists keys related hopAlias parentName inner =
        nested inner.toCondition.unwrapped [level] := by
  refine ⟨_, HopLevel.serves_of_made (Relation.level?_of_joinKeys joined), fun inner => ?_⟩
  unfold hopExists
  rw [Sql.Group.foldl_add_of_unwrapped (unwrapped_of_mem_standing _ _ _ _)]
  rfl

/-- A hop that joins puts what is asked of its row into its level. -/
theorem Hop.Joins.relatedExists_eq_nested {hop : Hop} (joins : hop.Joins) (context : Context)
    (before : List String) (rest : List Hop) :
    ∃ level related, hop.related = some related ∧
      level.Serves hop related (pathAlias (before ++ [hop.name])) (context.rowName before) ∧
      ∀ inner : String → Model → Except Failure Sql.Group,
        relatedExists inner (hop :: rest) (context.rowName before) (pathText before) =
          (hopConstraint inner rest (pathText (before ++ [hop.name])) related).map
            fun group => nested group.toCondition.unwrapped [level] := by
  obtain ⟨hasKeys, hasModel⟩ := joins
  obtain ⟨keys, joined⟩ := Option.isSome_iff_exists.mp hasKeys
  obtain ⟨related, led⟩ := Option.isSome_iff_exists.mp hasModel
  obtain ⟨level, serves, around⟩ :=
    hopExists_eq_nested related joined (pathAlias (before ++ [hop.name])) (context.rowName before)
  refine ⟨level, related, led, serves, fun inner => ?_⟩
  rw [QueryGate.relatedExists_cons, joined, led, pathText_append_singleton]
  simp only [← around, pathAlias, pathText_append_singleton]

/-- The condition along hops that all join is the one on the last row, in the levels of
the hops. -/
theorem relatedExists_eq_nested (context : Context) (rest : List Hop) (before : List String)
    {hop : Hop} (joins : ∀ other ∈ hop :: rest, other.Joins) :
    ∃ levels last, HopLevels context before (hop :: rest) levels ∧
      (hop :: rest).getLast?.bind Hop.related = some last ∧
      ∀ inner : String → Model → Except Failure Sql.Group,
        relatedExists inner (hop :: rest) (context.rowName before) (pathText before) =
          (inner (pathAlias (before ++ (hop :: rest).map Hop.name)) last).map
            fun group => nested group.toCondition.unwrapped levels := by
  induction rest generalizing hop before with
  | nil =>
      obtain ⟨level, related, led, serves, step⟩ :=
        (List.forall_mem_singleton.mp joins).relatedExists_eq_nested context before []
      exact ⟨[level], related, .cons led serves (.nil _), led, step⟩
  | cons next rest ih =>
      obtain ⟨here, later⟩ := List.forall_mem_cons.mp joins
      obtain ⟨level, related, led, serves, step⟩ :=
        here.relatedExists_eq_nested context before (next :: rest)
      obtain ⟨levels, last, follows, reached, asked⟩ := ih (before ++ [hop.name]) later
      refine ⟨level :: levels, last, .cons led serves follows, reached, fun inner => ?_⟩
      have following := asked inner
      rw [context.rowName_append_singleton, List.append_assoc] at following
      -- An existence condition is no junction, so the level takes it as it is.
      have whole (innermost : Sql.Condition) :
          (Sql.Group.one (nested innermost levels)).toCondition.unwrapped =
            nested innermost levels := by
        cases follows
        rfl
      have constraint : hopConstraint inner (next :: rest) (pathText (before ++ [hop.name]))
          related = (relatedExists inner (next :: rest) (pathAlias (before ++ [hop.name]))
            (pathText (before ++ [hop.name]))).map Sql.Group.one := rfl
      have names : (hop :: next :: rest).map Hop.name =
          [hop.name] ++ (next :: rest).map Hop.name := rfl
      rw [step, constraint, following, names]
      cases inner (pathAlias (before ++ ([hop.name] ++ (next :: rest).map Hop.name))) last with
      | error failure => rfl
      | ok group => exact congrArg (fun inside => Except.ok (nested inside [level])) (whole _)

/-! ## Conditions along a path -/

/-- The hops along a path have the names of the path. -/
theorem Context.names_of_resolve {context : Context} {path : String} {hops : List Hop}
    (walked : context.resolve path = .ok hops) : hops.map Hop.name = relationNames path := by
  have taken := Catalog.hops_of_walk walked
  clear walked
  generalize relationNames path = names at taken ⊢
  induction taken with
  | nil => rfl
  | cons here _ ih =>
      obtain ⟨_, made⟩ := here
      rw [List.map_cons, ih, Catalog.name_of_hop made]

/-- On a path that resolves, a hop joins unless its rows name the related table. -/
theorem Context.joins_iff_of_resolve {context : Context} {path : String} {hops : List Hop}
    (walked : context.resolve path = .ok hops) :
    (∀ hop ∈ hops, hop.Joins) ↔ ∀ hop ∈ hops, hop.relation.isLoose = false := by
  have related := Catalog.isSome_related_of_walk walked
  refine forall₂_congr fun hop member => ?_
  rw [Hop.Joins, related hop member, ← Relation.joinKeys?_isSome, and_self,
    Relation.joinKeys?_isSome_iff]

/-- The condition along a path whose hops all join is the one on the last row, in the levels
of the hops, whatever is asked of that row. -/
theorem Context.pathExists_eq_nested {context : Context} {path : String} {hops : List Hop}
    (walked : context.resolve path = .ok hops) (joins : ∀ hop ∈ hops, hop.Joins) :
    ∃ levels last, HopLevels context [] hops levels ∧
      hops.getLast?.bind Hop.related = some last ∧
      ∀ inner : String → Model → Except Failure Sql.Group,
        context.pathExists path inner =
          (inner (pathAlias (relationNames path)) last).map
            fun group => nested group.toCondition.unwrapped levels := by
  cases hops with
  | nil => exact absurd rfl (Context.ne_nil_of_resolve walked)
  | cons hop rest =>
      obtain ⟨levels, last, follows, reached, asked⟩ :=
        relatedExists_eq_nested context rest [] joins
      rw [List.nil_append, Context.names_of_resolve walked] at asked
      refine ⟨levels, last, follows, reached, fun inner => ?_⟩
      rw [Context.pathExists, walked]
      exact asked inner

/-- The condition on a row that a path reaches cannot be built where some relation has no
fixed table, or where what is asked of the row cannot. Otherwise it is as many existence
conditions as there are hops, one in the next: each is the level of its hop, under the
alias of the names so far, from the rows of the level before it or of the root table. The
innermost one holds what is asked of the last row under its alias, and nothing else does. -/
theorem relatedExists_nests {context : Context} {path : String} {hops : List Hop}
    (walked : context.resolve path = .ok hops)
    (inner : String → Model → Except Failure Sql.Group) :
    ((∃ failure, relatedExists inner hops context.root.table "" = .error failure) ↔
      (∃ hop ∈ hops, hop.relation.isLoose = true) ∨
        ∃ last failure, hops.getLast?.bind Hop.related = some last ∧
          inner (pathAlias (relationNames path)) last = .error failure) ∧
    ∀ condition, relatedExists inner hops context.root.table "" = .ok condition →
      ∃ levels last group, hops.getLast?.bind Hop.related = some last ∧
        inner (pathAlias (relationNames path)) last = .ok group ∧
        condition = nested group.toCondition.unwrapped levels ∧
        levels.length = hops.length ∧
        hops.map Hop.name = relationNames path ∧
        ∀ (index : Nat) (hop : Hop) (level : HopLevel),
        hops[index]? = some hop → levels[index]? = some level →
          ∃ related, hop.related = some related ∧
            level.Serves hop related (pathAlias ((relationNames path).take (index + 1)))
              (context.rowName ((relationNames path).take index)) := by
  have names := Context.names_of_resolve walked
  by_cases fixed : ∀ hop ∈ hops, hop.relation.isLoose = false
  · have joins := (Context.joins_iff_of_resolve walked).mpr fixed
    have noneLoose : ¬ ∃ hop ∈ hops, hop.relation.isLoose = true := by
      rintro ⟨hop, member, loose⟩
      rw [fixed hop member] at loose
      cases loose
    cases hops with
    | nil => exact absurd rfl (Context.ne_nil_of_resolve walked)
    | cons hop rest =>
        obtain ⟨levels, last, follows, reached, asked⟩ :=
          relatedExists_eq_nested context rest [] joins
        have asked : relatedExists inner (hop :: rest) context.root.table "" = _ := asked inner
        rw [List.nil_append, names] at asked
        rw [asked]
        constructor
        · simp only [Success.map_eq_error_iff, noneLoose, false_or, reached,
            Option.some.injEq, exists_and_left, exists_eq_left']
        · intro condition made
          obtain ⟨group, built, rfl⟩ := (Success.map_eq_ok_iff _ _ _).mp made
          have serves := follows.serves_at
          rw [names] at serves
          exact ⟨levels, last, group, reached, built, rfl, follows.length_eq, names, serves⟩
  · have loose : ∃ hop ∈ hops, hop.relation.isLoose = true := by
      simpa using fixed
    have unjoined := mt (Context.joins_iff_of_resolve walked).mp fixed
    cases hops with
    | nil => exact absurd rfl (Context.ne_nil_of_resolve walked)
    | cons hop rest =>
        obtain ⟨cause, refused⟩ := relatedExists_of_not_joins rest unjoined context.root.table ""
        rw [refused inner]
        exact ⟨⟨fun _ => .inl loose, fun _ => ⟨_, rfl⟩⟩, fun _ impossible => nomatch impossible⟩

/-- Posts by authors in teams, which can be deleted and have notes. -/
def notedTeams : Context :=
  { backend := .sqlite
    root := { table := "posts", relations := [("author", .belongsTo "users" "author_id" "id")] }
    catalog :=
      [("users",
          { table := "users"
            relations := [("teams", .throughPivot "teams" "memberships" "user_id" "team_id")] }),
        ("teams",
          { table := "teams"
            softDelete := some "deleted_at"
            relations := [("notes", .polymorphicMany "notes" "noted" "Team")] }),
        ("notes", { table := "notes" })] }

/-- The test of a note of an author's team is in three levels. -/
theorem relatedExists_nests_notedTeams :
    ∃ hops condition levels, notedTeams.resolve "author.teams.notes" = .ok hops ∧
      relatedExists (fun name _ => .ok (.one (.isNull true (.column ⟨name, "text"⟩)))) hops
        "posts" "" = .ok condition ∧
      levels.length = 3 ∧
      condition = nested (.isNull true (.column ⟨"author__teams__notes", "text"⟩)) levels := by
  have builds : ∃ hops condition, notedTeams.resolve "author.teams.notes" = .ok hops ∧
      relatedExists (fun name _ => .ok (.one (.isNull true (.column ⟨name, "text"⟩)))) hops
        "posts" "" = .ok condition ∧ hops.length = 3 :=
    ⟨_, _, rfl, rfl, rfl⟩
  obtain ⟨hops, condition, walked, built, three⟩ := builds
  obtain ⟨levels, last, group, _, asked, nests, length, _⟩ :=
    (relatedExists_nests walked
      fun name _ => .ok (.one (.isNull true (.column ⟨name, "text"⟩)))).2 condition built
  cases asked
  exact ⟨hops, condition, levels, walked, built, length.trans three, nests⟩

end QueryGate
