import QueryGate.Builder
import QueryGate.Proofs.Build.Levels

/-!
# Walks along relation paths

A dotted field is cut at its last dot, and the parts, with the dot between them, are the field
again. What stands before the dot is a relation path, and its names are walked from the root
model.

A walk succeeds exactly when the models declare it: every name is a relation of the model
reached so far, the relation leads to the root's own table or to one in the catalog, and only
the last relation may have no fixed table (`Context.Declares`). The hops of a walk that succeeds
then hang together. They have the names of the path, each starts at the model that the one
before it has reached, and each reaches the model that the resource gives for the table of its
relation, which for the root's own table is the root itself, whatever the catalog holds
(`resolve_walks`).
-/

set_option autoImplicit false

namespace QueryGate

/-! ## Field paths -/

/-- A field path is the parts of its text: they rebuild it, the last one has no dot, and there is
none before it exactly where the text has no dot. -/
structure FieldPath.Splits (text : String) (path : FieldPath) : Prop where
  rebuilds : path.text = text
  last : '.' ∉ path.field.toList
  undotted : path.relation = none ↔ '.' ∉ text.toList

theorem FieldPath.splits_ofText (text : String) : (FieldPath.ofText text).Splits text := by
  rcases FieldPath.ofText_cases text with ⟨whole, undotted⟩ | ⟨relation, field, cut, joined, last⟩
  · rw [whole]
    exact ⟨rfl, undotted, iff_of_true rfl undotted⟩
  · rw [cut]
    refine ⟨joined.symm, last, iff_of_false (Option.some_ne_none relation) fun undotted => ?_⟩
    apply undotted
    rw [joined]
    simp

/-- The names along a path, with the dots between them, are the path again. -/
theorem intercalate_relationNames (path : String) :
    ".".intercalate (relationNames path) = path := by
  unfold relationNames
  cases cut : Text.segments '.' path.toList with
  | nil => exact absurd cut (Text.segments_ne_nil '.' path.toList)
  | cons first others =>
      rw [← String.toList_inj, String.toList_intercalate, Text.eq_of_segments _ _ _ _ cut]
      clear cut
      induction others generalizing first with
      | nil => simp
      | cons other others ih =>
          have tail := ih other
          simp only [List.map_cons, List.intercalate_cons_cons] at tail ⊢
          rw [tail]
          simp

/-! ## Declared walks -/

/-- The name after other ones is a relation of the model that these reach. The relation leads to
the root's own table or to one in the catalog, or it has no fixed table and is the last one. -/
def Context.DeclaresAt (context : Context) (before : List String) (name : String)
    (after : List String) : Prop :=
  ∃ parent relation, DeclaredPath context before parent ∧
    parent.relation? name = some relation ∧
    (relation.isLoose = true → after = []) ∧
    ∀ table, relation.relatedTable? = some table →
      table = context.root.table ∨ ∃ model, context.catalog.lookup table = some model

/-- Each of the names is declared where the names before it lead from the root model. -/
def Context.Declares (context : Context) (names : List String) : Prop :=
  ∀ before name after, names = before ++ name :: after → context.DeclaresAt before name after

/-- What holds at every place of a list holds at its first one and at every later one. -/
theorem forall_split_cons {α : Type} {first : α} {rest : List α}
    {holds : List α → α → List α → Prop} :
    (∀ before item after, first :: rest = before ++ item :: after → holds before item after) ↔
      holds [] first rest ∧
        ∀ before item after, rest = before ++ item :: after →
          holds (first :: before) item after := by
  constructor
  · intro all
    refine ⟨all [] first rest rfl, fun before item after split => ?_⟩
    exact all (first :: before) item after (by rw [split]; rfl)
  · rintro ⟨here, later⟩ before item after split
    cases before with
    | nil =>
        cases split
        exact here
    | cons other before =>
        cases split
        exact later before item after rfl

section Declared

variable {context : Context} {path name : String} {names start : List String} {parent : Model}
  {relation : Relation} {hops : List Hop}

theorem Relation.isLoose_iff (relation : Relation) :
    relation.isLoose = true ↔ relation.relatedTable? = none := by
  cases relation <;> simp [isLoose, relatedTable?]

theorem Catalog.modelOf?_isSome_iff (catalog : Catalog) (root : Model) (table : String) :
    (∃ model, catalog.modelOf? root table = some model) ↔
      table = root.table ∨ ∃ model, catalog.lookup table = some model := by
  unfold modelOf?
  by_cases own : table = root.table
  · simp [own]
  · simp [own]

/-- A hop goes along the relation of its name, from the model that it starts at. -/
theorem Catalog.relation_of_hop {catalog : Catalog} {root parent : Model} {name : String}
    {hop : Hop} (made : catalog.hop root parent name = .ok hop) :
    hop.parent = parent ∧ parent.relation? name = some hop.relation := by
  obtain ⟨_, _, found, _, rfl⟩ := hop_eq_ok_iff.mp made
  exact ⟨rfl, found⟩

/-- A hop can be taken exactly along a relation of the model, to the root's own table, to one
in the catalog, or to none. -/
theorem Catalog.exists_hop_iff (catalog : Catalog) (root parent : Model) (name : String) :
    (∃ hop, catalog.hop root parent name = .ok hop) ↔
      ∃ relation, parent.relation? name = some relation ∧
        ∀ table, relation.relatedTable? = some table →
          table = root.table ∨ ∃ model, catalog.lookup table = some model := by
  simp only [Catalog.hop_eq_ok_iff, ← modelOf?_isSome_iff]
  constructor
  · rintro ⟨_, relation, related, found, resolved, rfl⟩
    refine ⟨relation, found, fun table fixed => ?_⟩
    rw [Catalog.related, fixed] at resolved
    dsimp only at resolved
    cases registered : catalog.modelOf? root table with
    | none =>
        rw [registered] at resolved
        cases resolved
    | some model => exact ⟨model, rfl⟩
  · rintro ⟨relation, found, leads⟩
    cases fixed : relation.relatedTable? with
    | none => exact ⟨_, relation, none, found, by rw [Catalog.related, fixed], rfl⟩
    | some table =>
        obtain ⟨model, registered⟩ := leads table fixed
        refine ⟨_, relation, some model, found, ?_, rfl⟩
        rw [Catalog.related, fixed]
        dsimp only
        rw [registered]

/-- A hop without a related model goes along a relation without a fixed table. -/
theorem Catalog.related_eq_none_iff {catalog : Catalog} {root parent : Model} {name : String}
    {hop : Hop} (made : catalog.hop root parent name = .ok hop) :
    hop.related = none ↔ hop.relation.isLoose = true := by
  have same := isSome_related_of_hop made
  rw [Relation.isLoose_iff, ← Option.not_isSome_iff_eq_none, ← Option.not_isSome_iff_eq_none, same]

/-- The model that a hop reaches is the one of the table of its relation. -/
theorem Catalog.related_of_hop {catalog : Catalog} {root parent : Model} {name table : String}
    {hop : Hop} (made : catalog.hop root parent name = .ok hop)
    (fixed : hop.relation.relatedTable? = some table) :
    hop.related = catalog.modelOf? root table := by
  have led := isSome_related_of_hop made
  obtain ⟨relation, related, _, resolved, rfl⟩ := hop_eq_ok_iff.mp made
  dsimp only at fixed led ⊢
  rw [fixed] at led
  obtain ⟨model, rfl⟩ := Option.isSome_iff_exists.mp led
  obtain ⟨table', fixed', registered⟩ := related_eq_ok_some resolved
  cases fixed.symm.trans fixed'
  exact registered.symm

theorem DeclaredPath.of_hop {model : Model} {hop : Hop}
    (reached : DeclaredPath context start parent)
    (made : context.catalog.hop context.root parent name = .ok hop)
    (led : hop.related = some model) : DeclaredPath context (start ++ [name]) model := by
  obtain ⟨relation, related, found, resolved, rfl⟩ := Catalog.hop_eq_ok_iff.mp made
  cases led
  obtain ⟨table, fixed, registered⟩ := Catalog.related_eq_ok_some resolved
  exact .step reached found fixed registered

/-- Behind a declared path, names can be walked exactly where they are declared. -/
theorem exists_walk_iff (reached : DeclaredPath context start parent) :
    (∃ hops, context.catalog.walk context.root path (some parent) names = .ok hops) ↔
      ∀ before name after, names = before ++ name :: after →
        context.DeclaresAt (start ++ before) name after := by
  induction names generalizing start parent with
  | nil => simp [Catalog.walk]
  | cons first names ih =>
      have behind {model : Model} (further : DeclaredPath context (start ++ [first]) model) :
          (∃ rest, context.catalog.walk context.root path (some model) names = .ok rest) ↔
            ∀ before name after, names = before ++ name :: after →
              context.DeclaresAt (start ++ first :: before) name after := by
        simpa only [List.append_assoc, List.singleton_append] using ih further
      simp only [Catalog.walk_cons_eq_ok_iff, forall_split_cons, List.append_nil]
      constructor
      · rintro ⟨_, hop, rest, here, there, rfl⟩
        obtain ⟨_, found⟩ := Catalog.relation_of_hop here
        obtain ⟨_, found', leads⟩ := (Catalog.exists_hop_iff _ _ _ _).mp ⟨hop, here⟩
        cases found.symm.trans found'
        cases led : hop.related with
        | none =>
            cases names with
            | nil => exact ⟨⟨parent, _, reached, found, fun _ => rfl, leads⟩, by simp⟩
            | cons next names =>
                rw [led] at there
                cases there
        | some model =>
            have fixed : ¬ hop.relation.isLoose = true := by
              rw [← Catalog.related_eq_none_iff here, led]
              exact Option.some_ne_none model
            rw [led] at there
            exact ⟨⟨parent, _, reached, found, fun loose => absurd loose fixed, leads⟩,
              (behind (reached.of_hop here led)).mp ⟨rest, there⟩⟩
      · rintro ⟨⟨_, relation, reached', found, last, leads⟩, later⟩
        cases reached.unique reached'
        obtain ⟨hop, here⟩ := (Catalog.exists_hop_iff _ _ _ _).mpr ⟨relation, found, leads⟩
        obtain ⟨_, found'⟩ := Catalog.relation_of_hop here
        cases found.symm.trans found'
        cases led : hop.related with
        | none =>
            have none := last ((Catalog.related_eq_none_iff here).mp led)
            exact ⟨_, hop, [], here, by rw [none, led, Catalog.walk], rfl⟩
        | some model =>
            obtain ⟨rest, there⟩ := (behind (reached.of_hop here led)).mpr later
            exact ⟨_, hop, rest, here, by rw [led]; exact there, rfl⟩

/-- A path resolves exactly where its names are declared. -/
theorem Context.resolves_iff (context : Context) (path : String) :
    context.Resolves path ↔ context.Declares (relationNames path) := by
  have walks := @exists_walk_iff context path (relationNames path) [] context.root .root
  exact walks

end Declared

/-! ## Hops that hang together -/

section Hops

variable {catalog : Catalog} {root : Model} {path : String} {names : List String} {hops : List Hop}

/-- The first hop of a walk starts where the walk does. -/
theorem Catalog.start_of_walk {model : Option Model} {hop : Hop} {rest : List Hop}
    (walked : catalog.walk root path model names = .ok (hop :: rest)) :
    model = some hop.parent := by
  cases names with
  | nil =>
      rw [walk] at walked
      cases walked
  | cons name names =>
      cases model with
      | none =>
          rw [walk] at walked
          cases walked
      | some parent =>
          obtain ⟨_, _, here, _, same⟩ := walk_cons_eq_ok_iff.mp walked
          cases same
          rw [(relation_of_hop here).1]

/-- Each hop of a walk starts at the model that the one before it has reached. -/
theorem Catalog.isChain_of_walk {model : Option Model}
    (walked : catalog.walk root path model names = .ok hops) :
    hops.IsChain fun hop next => hop.related = some next.parent := by
  induction names generalizing model hops with
  | nil =>
      rw [walk] at walked
      cases walked
      exact .nil
  | cons name names ih =>
      cases model with
      | none =>
          rw [walk] at walked
          cases walked
      | some parent =>
          obtain ⟨hop, rest, _, there, rfl⟩ := walk_cons_eq_ok_iff.mp walked
          have later := ih there
          cases rest with
          | nil => exact .singleton hop
          | cons next rest => exact List.isChain_cons_cons.mpr ⟨start_of_walk there, later⟩

/-- Each hop of a walk is one from its own parent along its own relation. -/
theorem Catalog.hop_of_mem_walk {model : Option Model}
    (walked : catalog.walk root path model names = .ok hops) :
    ∀ hop ∈ hops, catalog.hop root hop.parent hop.name = .ok hop := by
  have taken := hops_of_walk walked
  clear walked
  induction taken with
  | nil => exact fun _ impossible => absurd impossible List.not_mem_nil
  | cons here _ ih =>
      obtain ⟨parent, made⟩ := here
      refine List.forall_mem_cons.mpr ⟨?_, ih⟩
      rw [(relation_of_hop made).1, name_of_hop made]
      exact made

end Hops

/-- The hops walk the path from the root model of the resource. They have its names, and hang
together; each goes along the relation of its name to the model that the resource has for the
table of the relation. Only the last one may reach no model, and does where its relation has no
fixed table. -/
structure Builder.Walks (builder : Builder) (path : String) (hops : List Hop) : Prop where
  nonempty : hops ≠ []
  names : ".".intercalate (hops.map Hop.name) = path
  start : hops.head?.map Hop.parent = some builder.resource.model
  next : hops.IsChain fun hop following => hop.related = some following.parent
  declared : ∀ hop ∈ hops, hop.parent.relation? hop.name = some hop.relation
  reached : ∀ hop ∈ hops, ∀ table, hop.relation.relatedTable? = some table →
    hop.related = builder.resource.modelOf? table
  own : ∀ hop ∈ hops, hop.relation.relatedTable? = some builder.resource.model.table →
    hop.related = some builder.resource.model
  ends : ∀ before hop after, hops = before ++ hop :: after →
    (hop.related = none ↔ hop.relation.isLoose = true ∧ after = [])

theorem Builder.walks_of_resolve {builder : Builder} {path : String} {hops : List Hop}
    (resolved : builder.context.resolve path = .ok hops) : builder.Walks path hops := by
  have nonempty := Context.ne_nil_of_resolve resolved
  have made := Catalog.hop_of_mem_walk resolved
  have chain := Catalog.isChain_of_walk resolved
  have reached (hop : Hop) (member : hop ∈ hops) (table : String)
      (fixed : hop.relation.relatedTable? = some table) :
      hop.related = builder.resource.modelOf? table :=
    Catalog.related_of_hop (made hop member) fixed
  refine ⟨nonempty, ?_, ?_, chain, ?_, reached, ?_, ?_⟩
  · rw [Context.names_of_resolve resolved, intercalate_relationNames]
  · cases hops with
    | nil => exact absurd rfl nonempty
    | cons hop rest => exact (Catalog.start_of_walk resolved).symm
  · intro hop member
    exact (Catalog.relation_of_hop (made hop member)).2
  · intro hop member fixed
    rw [reached hop member _ fixed, Resource.modelOf?, Catalog.modelOf?, if_pos rfl]
  · rintro before hop after rfl
    have loose := Catalog.related_eq_none_iff (made hop (by simp))
    refine ⟨fun unled => ⟨loose.mp unled, ?_⟩, fun last => loose.mpr last.1⟩
    cases after with
    | nil => rfl
    | cons next after =>
        have led := (List.isChain_append_cons_cons.mp chain).2.1
        rw [unled] at led
        cases led

/-- A dotted field is rebuilt by its parts. A relation path resolves exactly where its names are
declared, one after another from the root model, and the hops that it resolves to are a walk
along it. -/
theorem resolve_walks (builder : Builder) (field path : String) :
    (FieldPath.ofText field).Splits field ∧
      (builder.context.Resolves path ↔ builder.context.Declares (relationNames path)) ∧
      ∀ hops, builder.context.resolve path = .ok hops → builder.Walks path hops := by
  refine ⟨FieldPath.splits_ofText field, builder.context.resolves_iff path, ?_⟩
  intro hops resolved
  exact Builder.walks_of_resolve resolved

/-- Members of teams, whose owners are members again. The catalog has another model under the
root's own table, and the rows of a team name the tables of their subjects. -/
def ownedMembers : Builder :=
  { resource :=
      { model := { table := "users", relations := [("team", .belongsTo "teams" "team_id" "id")] }
        catalog :=
          [("teams",
              { table := "teams"
                relations :=
                  [("owner", .belongsTo "users" "owner_id" "id"),
                    ("subject", .polymorphicTo "subject")] }),
            ("users", { table := "users" })] }
    backend := .sqlite }

/-- From a team back to the members, the path comes to the root, where it can go on to the team
of the owner and end at its subject. -/
theorem resolve_walks_ownedMembers :
    ∃ hops, ownedMembers.context.resolve "team.owner.team.subject" = .ok hops ∧
      ownedMembers.Walks "team.owner.team.subject" hops ∧
      (hops.map Hop.related)[1]? = some (some ownedMembers.resource.model) ∧
      hops.getLast?.bind Hop.related = none := by
  have resolves : ∃ hops, ownedMembers.context.resolve "team.owner.team.subject" = .ok hops ∧
      (hops.map Hop.related)[1]? = some (some ownedMembers.resource.model) ∧
      hops.getLast?.bind Hop.related = none := ⟨_, rfl, rfl, rfl⟩
  obtain ⟨hops, resolved, owner, subject⟩ := resolves
  have walks := (resolve_walks ownedMembers "team.owner.team.name" "team.owner.team.subject").2.2
  exact ⟨hops, resolved, walks hops resolved, owner, subject⟩

end QueryGate
