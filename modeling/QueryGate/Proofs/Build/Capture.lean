import QueryGate.Proofs.Build.Aliases

/-!
# Which row a tie looks at

A condition along a path is existence conditions one in the next, and each brings the names
of its tables into scope. A name stands for the row of the innermost scope that binds it. So
the tie of a hop looks at the row before it only if the hop does not bind the name of that
row once more; otherwise the tie compares the new row with itself.

The name of the row before a hop is the alias of the path so far, or the root table's own
name. A hop binds an alias that is longer, except where the path has empty names only. The
root table's name is bound by a first hop of that name, and by the pivot table of a first
hop whose alias it is. These are all the ways in which a tie is captured
(`pathExists_ties`).
-/

set_option autoImplicit false

namespace QueryGate

/-! ## Scopes -/

namespace Sql

/-- The name of the rows of a source. -/
def Source.rowName (source : Source) : String :=
  source.called.getD source.table

/-- The names that an existence condition brings into scope. -/
def boundNames (source : Source) (link : Option Link) : List String :=
  source.rowName :: (link.map fun link => link.source.rowName).toList

/-- The scope that a name is looked up in, counted from the innermost one: the first that
binds the name. -/
def scopeOf? (scopes : List (List String)) (name : String) : Option Nat :=
  scopes.findIdx? fun bound => bound.contains name

/-- A condition is part of another one. Where the whole is in the outer scopes, the part is
in the inner ones, the innermost first. -/
inductive Condition.Holds : List (List String) → Condition → List (List String) → Condition → Prop
  | here (scopes : List (List String)) (condition : Condition) :
      Holds scopes condition scopes condition
  | member {outer inner : List (List String)} {kind : Junction} {members : List Condition}
      {member part : Condition} (among : member ∈ members)
      (holds : Holds outer member inner part) :
      Holds outer (.junction kind members) inner part
  | inside {outer inner : List (List String)} {source : Source} {link : Option Link}
      {restriction part : Condition}
      (holds : Holds (boundNames source link :: outer) restriction inner part) :
      Holds outer (.existsRow source link restriction) inner part

variable {scopes : List (List String)} {bound : List String} {name : String}

theorem scopeOf?_of_mem (binds : name ∈ bound) : scopeOf? (bound :: scopes) name = some 0 := by
  rw [scopeOf?, List.findIdx?_cons, if_pos (List.contains_iff_mem.mpr binds)]

theorem scopeOf?_of_not_mem (free : name ∉ bound) :
    scopeOf? (bound :: scopes) name = (scopeOf? scopes name).map (· + 1) := by
  rw [scopeOf?, List.findIdx?_cons, if_neg (mt List.contains_iff_mem.mp free)]
  rfl

end Sql

/-! ## The scopes of a path -/

/-- The names that a hop brings into scope: its alias, and that of its pivot table. -/
def JoinKeys.boundNames (keys : JoinKeys) (hopAlias : String) : List String :=
  match keys.pivot with
  | none => [hopAlias]
  | some _ => [pivotAlias hopAlias, hopAlias]

/-- The names that a level brings into scope. -/
def HopLevel.boundNames (level : HopLevel) : List String :=
  Sql.boundNames level.source level.link

/-- The scopes inside the levels up to a place. -/
def scopesAt (outer : List (List String)) (levels : List HopLevel) (index : Nat) :
    List (List String) :=
  ((levels.take (index + 1)).map HopLevel.boundNames).reverse ++ outer

namespace JoinKeys

variable {keys : JoinKeys} {hopAlias : String}

theorem boundNames_level (related : Model) (parentName : String) :
    (keys.level related hopAlias parentName).boundNames = keys.boundNames hopAlias := by
  unfold HopLevel.boundNames level sources JoinKeys.boundNames
  cases keys.pivot <;> rfl

theorem mem_boundNames_iff {name : String} :
    name ∈ keys.boundNames hopAlias ↔
      name = hopAlias ∨ keys.pivot.isSome = true ∧ name = pivotAlias hopAlias := by
  unfold boundNames
  cases keys.pivot with
  | none => simp
  | some pivot => simp [or_comm]

theorem keyAlias_mem_boundNames : keys.keyAlias hopAlias ∈ keys.boundNames hopAlias := by
  unfold keyAlias boundNames
  cases keys.pivot <;> simp

/-- A hop binds no name twice. -/
theorem nodup_boundNames (keys : JoinKeys) (hopAlias : String) :
    (keys.boundNames hopAlias).Nodup := by
  unfold boundNames
  cases keys.pivot with
  | none => simp
  | some pivot => simp [pivotAlias_ne_of_length_le (Nat.le_refl _)]

end JoinKeys

/-- What a level asks for anyway is in the scopes of the levels up to it. -/
theorem holds_nested (innermost : Sql.Condition) {levels : List HopLevel} {index : Nat}
    {level : HopLevel} (found : levels[index]? = some level) {condition : Sql.Condition}
    (asked : condition ∈ level.standing) (outer : List (List String)) :
    (nested innermost levels).Holds outer (scopesAt outer levels index) condition := by
  induction levels generalizing index outer with
  | nil => cases found
  | cons first levels ih =>
      cases index with
      | zero =>
          cases found
          exact .inside (.member (List.mem_append_left _ asked) (.here _ _))
      | succ index =>
          have deeper := ih found (first.boundNames :: outer)
          have scopes : scopesAt (first.boundNames :: outer) levels index =
              scopesAt outer (first :: levels) (index + 1) := by
            simp [scopesAt]
          rw [scopes] at deeper
          exact .inside (.member (List.mem_append_right _ (List.mem_singleton.mpr rfl)) deeper)

/-- A level comes first in the scopes up to it, and those up to the one before it follow. -/
theorem scopesAt_eq_cons {levels : List HopLevel} {index : Nat} {level : HopLevel}
    (found : levels[index]? = some level) (outer : List (List String)) :
    scopesAt outer levels index =
      level.boundNames :: (((levels.take index).map HopLevel.boundNames).reverse ++ outer) := by
  rw [scopesAt, List.take_add_one, found]
  simp

/-- A level binds the alias of its hop. -/
theorem HopLevel.Serves.mem_boundNames {level : HopLevel} {hop : Hop} {related : Model}
    {hopAlias parentName : String} (serves : level.Serves hop related hopAlias parentName) :
    hopAlias ∈ level.boundNames := by
  have made := serves.made
  cases relation : hop.relation with
  | belongsToMany table pivot foreignPivotKey relatedPivotKey parentKey relatedKey =>
      rw [relation] at made
      cases made
      exact List.mem_cons_of_mem _ List.mem_cons_self
  | morphTo typeColumn idColumn =>
      rw [relation] at made
      cases made
  | _ =>
      rw [relation] at made
      cases made
      exact List.mem_cons_self

/-! ## Ties -/

/-- A hop of a path binds the name of the row before it: the root table's name as its own
or as that of its pivot table, or the empty alias once more. -/
def Captured (context : Context) (names : List String) (index : Nat) (keys : JoinKeys) : Prop :=
  (index = 0 ∧ ∃ name, names.head? = some name ∧
    (name = context.root.table ∨
      keys.pivot.isSome = true ∧ pivotAlias name = context.root.table)) ∨
    Repeats names index

theorem mem_boundNames_iff_captured {context : Context} {names : List String} {index : Nat}
    {keys : JoinKeys} (within : index < names.length)
    (dotless : ∀ name ∈ names, '.' ∉ name.toList) :
    context.rowName (names.take index) ∈ keys.boundNames (pathAlias (names.take (index + 1))) ↔
      Captured context names index keys := by
  rw [JoinKeys.mem_boundNames_iff, Captured]
  cases index with
  | zero =>
      cases names with
      | nil => cases within
      | cons name names =>
          have alone : pathAlias [name] = name :=
            pathAlias_singleton (dotless name List.mem_cons_self)
          have unrepeated : ¬ Repeats (name :: names) 0 := fun repeats => repeats.1 rfl
          simp only [List.take_zero, List.take_succ_cons, zero_add, Context.rowName, alone,
            unrepeated, or_false, List.head?_cons, true_and, Option.some.injEq,
            exists_eq_left', eq_comm (a := context.root.table)]
  | succ index =>
      obtain ⟨name, found⟩ : ∃ name, names[index + 1]? = some name :=
        ⟨_, List.getElem?_eq_getElem within⟩
      have upTo : names.take (index + 1 + 1) = names.take (index + 1) ++ [name] := by
        rw [List.take_add_one, found]
        rfl
      have row : context.rowName (names.take (index + 1)) = pathAlias (names.take (index + 1)) := by
        cases names <;> first | rfl | cases within
      have apart := pivotAlias_ne_of_length_le (length_pathAlias_le (names.take (index + 1)) name)
      have later : index + 1 ≠ 0 := Nat.succ_ne_zero index
      rw [row, Repeats, upTo, eq_comm, pathAlias_append_singleton_eq_iff]
      simp only [apart.symm, and_false, or_false, later, false_and, false_or, ne_eq,
        not_false_eq_true, true_and]

/-- The tie of a hop stands in a condition, in one scope for each hop up to it and in that
of the statement around the condition. The key of the hop is looked up in its own scope.
That of the row before it is looked up in the next scope, unless it is captured. -/
structure Tied (context : Context) (names : List String) (index : Nat) (keys : JoinKeys)
    (host : List String) (condition : Sql.Condition) (scopes : List (List String)) : Prop where
  holds : condition.Holds [host] scopes
    (keys.tie (pathAlias (names.take (index + 1))) (context.rowName (names.take index)))
  depth : scopes.length = index + 2
  bound : scopes.head? = some (keys.boundNames (pathAlias (names.take (index + 1))))
  own : Sql.scopeOf? scopes (keys.keyAlias (pathAlias (names.take (index + 1)))) = some 0
  captured : Sql.scopeOf? scopes (context.rowName (names.take index)) = some 0 ↔
    Captured context names index keys
  enclosing : Sql.scopeOf? scopes (context.rowName (names.take index)) = some 1 ↔
    ¬ Captured context names index keys

variable {context : Context} {path : String} {hops : List Hop}

/-- Around a hop, the row before it is that of the innermost scope. -/
theorem HopLevels.scopeOf?_before {levels : List HopLevel}
    (follows : HopLevels context [] hops levels) {host : List String}
    (hosted : context.root.table ∈ host) {index : Nat} (within : index < hops.length) :
    Sql.scopeOf? (((levels.take index).map HopLevel.boundNames).reverse ++ [host])
      (context.rowName ((hops.map Hop.name).take index)) = some 0 := by
  cases index with
  | zero => exact Sql.scopeOf?_of_mem hosted
  | succ index =>
      have earlier : index < hops.length := Nat.lt_of_succ_lt within
      obtain ⟨hop, found⟩ : ∃ hop, hops[index]? = some hop :=
        ⟨_, List.getElem?_eq_getElem earlier⟩
      obtain ⟨level, beside⟩ : ∃ level, levels[index]? = some level :=
        ⟨_, List.getElem?_eq_getElem (follows.length_eq ▸ earlier)⟩
      obtain ⟨related, _, serves⟩ := follows.serves_at index hop level found beside
      have row : context.rowName ((hops.map Hop.name).take (index + 1)) =
          pathAlias ((hops.map Hop.name).take (index + 1)) := by
        cases hops <;> first | rfl | cases within
      have scopes := scopesAt_eq_cons beside [host]
      rw [scopesAt] at scopes
      rw [row, scopes]
      exact Sql.scopeOf?_of_mem serves.mem_boundNames

/-- The tie of each hop stands in the levels of the hops up to it. -/
theorem tied_nested (walked : context.resolve path = .ok hops) {levels : List HopLevel}
    (follows : HopLevels context [] hops levels) {host : List String}
    (hosted : context.root.table ∈ host) (innermost : Sql.Condition) {index : Nat} {hop : Hop}
    (found : hops[index]? = some hop) :
    ∃ keys, hop.relation.joinKeys? = some keys ∧
      Tied context (relationNames path) index keys host (nested innermost levels)
        (scopesAt [host] levels index) := by
  have names := Context.names_of_resolve walked
  have length := follows.length_eq
  have within : index < hops.length := (List.getElem?_eq_some_iff.mp found).1
  have within' : index < (relationNames path).length := by
    rw [← names, List.length_map]
    exact within
  obtain ⟨level, beside⟩ : ∃ level, levels[index]? = some level :=
    ⟨_, List.getElem?_eq_getElem (length ▸ within)⟩
  have serving := follows.serves_at
  rw [names] at serving
  simp only [List.nil_append] at serving
  obtain ⟨related, led, serves⟩ := serving index hop level found beside
  obtain ⟨keys, joined, _⟩ := serves.agrees
  cases serves.made.symm.trans (Relation.level?_of_joinKeys joined)
  have scopes := scopesAt_eq_cons beside [host]
  rw [JoinKeys.boundNames_level] at scopes
  have captured : context.rowName ((relationNames path).take index) ∈
      keys.boundNames (pathAlias ((relationNames path).take (index + 1))) ↔
        Captured context (relationNames path) index keys :=
    mem_boundNames_iff_captured within' fun name => dotless_of_mem_relationNames
  have around := follows.scopeOf?_before hosted within
  rw [names] at around
  have resolved : (Captured context (relationNames path) index keys →
      Sql.scopeOf? (scopesAt [host] levels index)
        (context.rowName ((relationNames path).take index)) = some 0) ∧
      (¬ Captured context (relationNames path) index keys →
      Sql.scopeOf? (scopesAt [host] levels index)
        (context.rowName ((relationNames path).take index)) = some 1) := by
    rw [scopes, ← captured]
    refine ⟨Sql.scopeOf?_of_mem, fun free => ?_⟩
    rw [Sql.scopeOf?_of_not_mem free, around]
    rfl
  refine ⟨keys, joined, holds_nested innermost beside List.mem_cons_self [host], ?_, ?_, ?_, ?_, ?_⟩
  · rw [scopes]
    simp only [List.length_cons, List.length_append, List.length_reverse, List.length_map,
      List.length_take, List.length_nil]
    omega
  · rw [scopes]
    rfl
  · rw [scopes]
    exact Sql.scopeOf?_of_mem JoinKeys.keyAlias_mem_boundNames
  · refine ⟨fun innermost => ?_, resolved.1⟩
    by_contra free
    have outside := (resolved.2 free).symm.trans innermost
    cases outside
  · refine ⟨fun enclosing caught => ?_, resolved.2⟩
    have inside := (resolved.1 caught).symm.trans enclosing
    cases inside

/-- Along a path that resolves and whose relations all have a fixed table, a condition is
built whatever is asked of the last row. The tie of each hop looks at the row before it in
the scope around the hop, which is that of the hop before or of the statement around the
condition, except where a hop binds the name of that row itself. Then the tie looks at the
row of the hop. -/
theorem pathExists_ties (walked : context.resolve path = .ok hops)
    (fixed : ∀ hop ∈ hops, hop.relation.isLoose = false) {host : List String}
    (hosted : context.root.table ∈ host) :
    ∃ last, hops.getLast?.bind Hop.related = some last ∧
      ∀ inner group, inner (pathAlias (relationNames path)) last = .ok group →
        ∃ condition, context.pathExists path inner = .ok condition ∧
          ∀ index hop, hops[index]? = some hop →
            ∃ keys scopes, hop.relation.joinKeys? = some keys ∧
              Tied context (relationNames path) index keys host condition scopes := by
  have joins := (Context.joins_iff_of_resolve walked).mpr fixed
  cases hops with
  | nil => exact absurd rfl (Context.ne_nil_of_resolve walked)
  | cons first rest =>
      obtain ⟨levels, last, follows, reached, asked⟩ :=
        relatedExists_eq_nested context rest [] joins
      rw [List.nil_append, Context.names_of_resolve walked] at asked
      refine ⟨last, reached, fun inner group made => ?_⟩
      have built := asked inner
      rw [made] at built
      refine ⟨nested group.toCondition.unwrapped levels, ?_, fun index hop found => ?_⟩
      · rw [Context.pathExists, walked]
        exact built
      · obtain ⟨keys, joined, tied⟩ :=
          tied_nested walked follows hosted group.toCondition.unwrapped found
        exact ⟨keys, _, joined, tied⟩

/-- The teams of an author are tied to the author, in the scope around them. -/
theorem pathExists_ties_notedTeams :
    ∃ condition keys scopes,
      notedTeams.pathExists "author.teams.notes"
        (fun name _ => .ok (.one (.isNull true (.column ⟨name, "text"⟩)))) = .ok condition ∧
      Tied notedTeams ["author", "teams", "notes"] 1 keys ["posts"] condition scopes ∧
      Sql.scopeOf? scopes "author" = some 1 := by
  have walks : ∃ hops, notedTeams.resolve "author.teams.notes" = .ok hops ∧
      hops.all (fun hop => !hop.relation.isLoose) = true ∧ ∃ hop, hops[1]? = some hop :=
    ⟨_, rfl, rfl, _, rfl⟩
  obtain ⟨hops, walked, fixed, hop, found⟩ := walks
  have names : relationNames "author.teams.notes" = ["author", "teams", "notes"] := by decide
  obtain ⟨last, _, builds⟩ :=
    pathExists_ties walked (by simpa using fixed) (List.mem_singleton.mpr (rfl : _ = "posts"))
  obtain ⟨condition, built, ties⟩ :=
    builds (fun name _ => .ok (.one (.isNull true (.column ⟨name, "text"⟩)))) _ rfl
  obtain ⟨keys, scopes, _, tied⟩ := ties 1 hop found
  rw [names] at tied
  refine ⟨condition, keys, scopes, built, tied, tied.enclosing.mpr ?_⟩
  rintro (⟨first, _⟩ | ⟨_, empty⟩)
  · cases first
  · exact absurd (empty "author" List.mem_cons_self) (by decide)

/-- Comments that answer comments, by a relation with the name of their table. -/
def answeredComments : Context :=
  { backend := .sqlite
    root :=
      { table := "comments"
        relations := [("comments", .hasMany "comments" "parent_id" "id")] }
    catalog := [] }

/-- The tie of an answer looks at the answer itself, and not at the comment around it. -/
theorem not_pathExists_ties_answeredComments :
    ∃ condition,
      answeredComments.pathExists "comments"
        (fun name _ => .ok (.one (.isNull true (.column ⟨name, "body"⟩)))) = .ok condition ∧
      condition.Holds [["comments"]] [["comments"], ["comments"]]
        (columnsEqual ⟨"comments", "parent_id"⟩ ⟨"comments", "id"⟩) ∧
      Sql.scopeOf? [["comments"], ["comments"]] "comments" ≠ some 1 :=
  ⟨_, rfl, .inside (.member List.mem_cons_self (.here _ _)), by decide⟩

end QueryGate
