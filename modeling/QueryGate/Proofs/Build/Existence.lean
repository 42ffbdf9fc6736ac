import QueryGate.Proofs.Build.References

/-!
# When a row can be asked for along a path

A relation path is resolved before any condition is built along it. A path reaches rows
when it resolves and every relation on it has a fixed table; the condition along such a
path is the one that is asked of its last row, put into the existence conditions of its
hops, whatever is asked (`pathExists_of_reaches`). Along every other path nothing can be
asked at all, and it is the resource that is at fault and not the question
(`pathExists_of_not_reaches`).

A field names a column when it has no path, when it goes through the pivot table of the
listing, or when its path reaches rows.
-/

set_option autoImplicit false

namespace QueryGate

/-! ## Paths that resolve -/

/-- The path can be walked from the root model. -/
def Context.Resolves (context : Context) (path : String) : Prop :=
  ∃ hops, context.resolve path = .ok hops

/-- The path can be walked from the root model, and every relation on it has a fixed
table. -/
def Context.Reaches (context : Context) (path : String) : Prop :=
  ∃ hops, context.resolve path = .ok hops ∧ ∀ hop ∈ hops, hop.relation.relatedTable?.isSome = true

/-- A relation path leads to columns: none to those of the root table, the name of the
pivot table to those of the pivot table if there is one, and any other to those of the
rows that it reaches. -/
def Context.HasColumns (context : Context) : Option String → Prop
  | none => True
  | some path => if path = pivotName then context.pivot.isSome = true else context.Reaches path

/-- The field names a column. -/
def Context.NamesColumn (context : Context) (field : String) : Prop :=
  context.HasColumns (FieldPath.ofText field).relation

theorem Context.Reaches.resolves {context : Context} {path : String}
    (reaches : context.Reaches path) : context.Resolves path := by
  obtain ⟨hops, walked, _⟩ := reaches
  exact ⟨hops, walked⟩

namespace Catalog

variable {catalog : Catalog} {root parent : Model} {path name : String} {names : List String}
  {hop : Hop} {hops : List Hop}

theorem failure_of_hop {failure : Failure}
    (failed : catalog.hop root parent name = .error failure) :
    ∃ cause, failure = .misconfigured cause := by
  unfold Catalog.hop related at failed
  split at failed
  · cases failed
    exact ⟨_, rfl⟩
  · split at failed
    · cases failed
    · split at failed
      · cases failed
      · cases failed
        exact ⟨_, rfl⟩

/-- A walk fails only where the models do not declare the path. -/
theorem failure_of_walk {model : Option Model} {failure : Failure}
    (failed : catalog.walk root path model names = .error failure) :
    ∃ cause, failure = .misconfigured cause := by
  induction names generalizing model with
  | nil =>
      rw [walk] at failed
      cases failed
  | cons name names ih =>
      cases model with
      | none =>
          rw [walk] at failed
          cases failed
          exact ⟨_, rfl⟩
      | some parent =>
          rw [walk, Success.bind_eq_error_iff] at failed
          rcases failed with here | ⟨hop, _, failed⟩
          · exact failure_of_hop here
          · rcases (Success.bind_eq_error_iff _ _ _).mp failed with there | ⟨hops, _, impossible⟩
            · exact ih there
            · cases impossible

/-- A hop along a relation with a fixed table reaches a model. -/
theorem isSome_related_of_hop (made : catalog.hop root parent name = .ok hop) :
    hop.related.isSome = hop.relation.relatedTable?.isSome := by
  obtain ⟨relation, model?, _, resolved, rfl⟩ := hop_eq_ok_iff.mp made
  unfold related at resolved
  split at resolved
  · next loose =>
      cases resolved
      rw [loose]
      rfl
  · next fixed =>
      split at resolved
      · cases resolved
        rw [fixed]
        rfl
      · cases resolved

/-- A walk takes a hop for each name, one after another. -/
theorem hops_of_walk {model : Option Model}
    (walked : catalog.walk root path model names = .ok hops) :
    List.Forall₂ (fun name hop => ∃ parent, catalog.hop root parent name = .ok hop) names hops := by
  induction names generalizing model hops with
  | nil =>
      rw [walk] at walked
      cases walked
      exact .nil
  | cons name names ih =>
      cases model with
      | none =>
          rw [walk] at walked
          cases walked
      | some parent =>
          obtain ⟨hop, rest, here, there, rfl⟩ := walk_cons_eq_ok_iff.mp walked
          exact .cons ⟨parent, here⟩ (ih there)

theorem isSome_related_of_walk {model : Option Model}
    (walked : catalog.walk root path model names = .ok hops) :
    ∀ hop ∈ hops, hop.related.isSome = hop.relation.relatedTable?.isSome := by
  have taken := hops_of_walk walked
  clear walked
  induction taken with
  | nil => exact fun _ impossible => absurd impossible List.not_mem_nil
  | cons here _ ih =>
      obtain ⟨_, made⟩ := here
      exact List.forall_mem_cons.mpr ⟨isSome_related_of_hop made, ih⟩

end Catalog

variable {context : Context} {path : String}

theorem Context.failure_of_resolve {failure : Failure}
    (failed : context.resolve path = .error failure) : ∃ cause, failure = .misconfigured cause :=
  Catalog.failure_of_walk failed

/-- A path that resolves has at least one hop. -/
theorem Context.ne_nil_of_resolve {hops : List Hop} (walked : context.resolve path = .ok hops) :
    hops ≠ [] := by
  rintro rfl
  have names := List.forall₂_nil_right_iff.mp (Catalog.hops_of_walk walked)
  exact Text.segments_ne_nil '.' path.toList (List.map_eq_nil_iff.mp names)

/-! ## Conditions along hops -/

/-- Whether a row can be asked for along the hop: its relation has a join, and leads to
a model. -/
def Hop.Joins (hop : Hop) : Prop :=
  hop.relation.joinKeys?.isSome = true ∧ hop.related.isSome = true

/-- The ways in which the hops of a path put the condition on the last row into
existence conditions. -/
inductive HopFrame : (Sql.Group → Sql.Condition) → Prop where
  | last (keys : JoinKeys) (related : Model) (hopAlias parentAlias : String) :
      HopFrame (hopExists keys related hopAlias parentAlias)
  | before (keys : JoinKeys) (related : Model) (hopAlias parentAlias : String)
      {frame : Sql.Group → Sql.Condition} (rest : HopFrame frame) :
      HopFrame fun group => hopExists keys related hopAlias parentAlias (.one (frame group))

/-- A hop that joins puts what is asked of its row into one condition. -/
theorem Hop.Joins.relatedExists_cons {hop : Hop} (joins : hop.Joins) (rest : List Hop)
    (parentAlias path : String) :
    ∃ keys related, ∀ inner : String → Model → Except Failure Sql.Group,
      relatedExists inner (hop :: rest) parentAlias path =
        (hopConstraint inner rest (extendPath path hop.name) related).map
          (hopExists keys related (relationAlias (extendPath path hop.name)) parentAlias) := by
  obtain ⟨hasKeys, hasModel⟩ := joins
  obtain ⟨keys, joined⟩ := Option.isSome_iff_exists.mp hasKeys
  obtain ⟨related, led⟩ := Option.isSome_iff_exists.mp hasModel
  refine ⟨keys, related, fun inner => ?_⟩
  rw [QueryGate.relatedExists_cons, joined, led]

/-- Nothing can be asked along a hop that does not join. -/
theorem Hop.relatedExists_cons_of_not_joins {hop : Hop} (loose : ¬ hop.Joins) (rest : List Hop)
    (parentAlias path : String) (inner : String → Model → Except Failure Sql.Group) :
    relatedExists inner (hop :: rest) parentAlias path =
      .error (.misconfigured (.looseRelation (extendPath path hop.name) hop.parent.table)) := by
  rw [QueryGate.relatedExists_cons]
  cases joined : hop.relation.joinKeys? with
  | none => rfl
  | some keys =>
      cases led : hop.related with
      | none => rfl
      | some related => exact absurd ⟨by rw [joined]; rfl, by rw [led]; rfl⟩ loose

/-- The condition along hops that all join is the one on the last row, put into the
existence conditions of the hops. -/
theorem relatedExists_of_joins (rest : List Hop) {hop : Hop}
    (joins : ∀ other ∈ hop :: rest, other.Joins) (parentAlias path : String) :
    ∃ name related frame, HopFrame frame ∧
      ∀ inner : String → Model → Except Failure Sql.Group,
        relatedExists inner (hop :: rest) parentAlias path = (inner name related).map frame := by
  induction rest generalizing hop parentAlias path with
  | nil =>
      obtain ⟨here, _⟩ := List.forall_mem_cons.mp joins
      obtain ⟨keys, related, framed⟩ := here.relatedExists_cons [] parentAlias path
      exact ⟨_, related, _, .last keys related _ _, framed⟩
  | cons next rest ih =>
      obtain ⟨here, later⟩ := List.forall_mem_cons.mp joins
      obtain ⟨keys, related, framed⟩ := here.relatedExists_cons (next :: rest) parentAlias path
      let hopPath := extendPath path hop.name
      obtain ⟨name, last, frame, frames, asked⟩ := ih later (relationAlias hopPath) hopPath
      refine ⟨name, last, _, .before keys related (relationAlias hopPath) parentAlias frames,
        fun inner => ?_⟩
      rw [framed, hopConstraint, asked]
      cases inner name last <;> rfl

/-- Where some hop does not join, nothing can be asked along the hops. -/
theorem relatedExists_of_not_joins (rest : List Hop) {hop : Hop}
    (loose : ¬ ∀ other ∈ hop :: rest, other.Joins) (parentAlias path : String) :
    ∃ cause, ∀ inner : String → Model → Except Failure Sql.Group,
      relatedExists inner (hop :: rest) parentAlias path = .error (.misconfigured cause) := by
  induction rest generalizing hop parentAlias path with
  | nil =>
      rw [List.forall_mem_singleton] at loose
      exact ⟨_, Hop.relatedExists_cons_of_not_joins loose [] parentAlias path⟩
  | cons next rest ih =>
      by_cases here : hop.Joins
      · obtain ⟨keys, related, framed⟩ := here.relatedExists_cons (next :: rest) parentAlias path
        have later : ¬ ∀ other ∈ next :: rest, other.Joins :=
          fun joins => loose (List.forall_mem_cons.mpr ⟨here, joins⟩)
        let hopPath := extendPath path hop.name
        obtain ⟨cause, refused⟩ := ih later (relationAlias hopPath) hopPath
        refine ⟨cause, fun inner => ?_⟩
        rw [framed, hopConstraint, refused]
        rfl
      · exact ⟨_, Hop.relatedExists_cons_of_not_joins here (next :: rest) parentAlias path⟩

/-! ## Conditions along a path -/

/-- On a path that resolves, the hops join exactly when the path reaches rows. -/
theorem Context.joins_iff_reaches {hops : List Hop} (walked : context.resolve path = .ok hops) :
    (∀ hop ∈ hops, hop.Joins) ↔ context.Reaches path := by
  have related := Catalog.isSome_related_of_walk walked
  constructor
  · intro joins
    refine ⟨hops, walked, fun hop member => ?_⟩
    rw [← Relation.joinKeys?_isSome]
    exact (joins hop member).1
  · rintro ⟨others, again, fixed⟩ hop member
    cases walked.symm.trans again
    refine ⟨?_, (related hop member).trans (fixed hop member)⟩
    rw [Relation.joinKeys?_isSome]
    exact fixed hop member

/-- The condition along a path that reaches rows is the one on the last row, put into
the existence conditions of the hops. -/
theorem Context.pathExists_of_reaches (reaches : context.Reaches path) :
    ∃ name related frame, HopFrame frame ∧
      ∀ inner : String → Model → Except Failure Sql.Group,
        context.pathExists path inner = (inner name related).map frame := by
  obtain ⟨hops, walked⟩ := reaches.resolves
  have joins := (Context.joins_iff_reaches walked).mpr reaches
  cases hops with
  | nil => exact absurd rfl (Context.ne_nil_of_resolve walked)
  | cons hop rest =>
      obtain ⟨name, related, frame, frames, framed⟩ :=
        relatedExists_of_joins rest joins context.root.table ""
      refine ⟨name, related, frame, frames, fun inner => ?_⟩
      rw [Context.pathExists, walked]
      exact framed inner

/-- Nothing can be asked along any other path, and it is the resource that is at
fault. -/
theorem Context.pathExists_of_not_reaches (astray : ¬ context.Reaches path) :
    ∃ cause, ∀ inner : String → Model → Except Failure Sql.Group,
      context.pathExists path inner = .error (.misconfigured cause) := by
  cases walked : context.resolve path with
  | error failure =>
      obtain ⟨cause, rfl⟩ := Context.failure_of_resolve walked
      refine ⟨cause, fun inner => ?_⟩
      rw [Context.pathExists, walked]
      rfl
  | ok hops =>
      have loose := mt (Context.joins_iff_reaches walked).mp astray
      cases hops with
      | nil => exact absurd rfl (Context.ne_nil_of_resolve walked)
      | cons hop rest =>
          obtain ⟨cause, refused⟩ := relatedExists_of_not_joins rest loose context.root.table ""
          refine ⟨cause, fun inner => ?_⟩
          rw [Context.pathExists, walked]
          exact refused inner

end QueryGate
