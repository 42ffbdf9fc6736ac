import QueryGate.Build.Existence
import QueryGate.Proofs.Sql.References
import QueryGate.Proofs.Success

/-!
# Declared paths

A relation path is declared when it can be walked from the root model, each name a
relation of the model reached so far, and each relation with a fixed table that is
the root's or in the catalog. What a resource declares of a hop on such a path is all
that its joins can take from it: the keys of the relation, and the column of deletion
of the model that the hop reaches.

Rows along a path go by the name of the path so far. That name is put together from
declared relation names only, so it has no character that they do not have, apart from
underscores.
-/

set_option autoImplicit false

namespace QueryGate

/-! ## Names of paths -/

/-- The text of a path, as hops extend it. An empty name at the front leaves no
trace in it. -/
def pathText (names : List String) : String :=
  names.foldl extendPath ""

/-- The alias of the rows that a path reaches. -/
def pathAlias (names : List String) : String :=
  relationAlias (pathText names)

/-- The name of the rows that a path reaches: the root table's own name before the
first hop. -/
def Context.rowName (context : Context) : List String → String
  | [] => context.root.table
  | name :: names => pathAlias (name :: names)

theorem pathText_append_singleton (names : List String) (name : String) :
    pathText (names ++ [name]) = extendPath (pathText names) name :=
  List.foldl_append

theorem Context.rowName_append_singleton (context : Context) (names : List String) (name : String) :
    context.rowName (names ++ [name]) = pathAlias (names ++ [name]) := by
  cases names <;> rfl

/-- A written path has at least one name, so its rows go by an alias. -/
theorem Context.rowName_relationNames (context : Context) (relation : String) :
    context.rowName (relationNames relation) = pathAlias (relationNames relation) := by
  cases names : relationNames relation with
  | nil => exact absurd (List.map_eq_nil_iff.mp names) (Text.segments_ne_nil '.' relation.toList)
  | cons name names => rfl

/-- A path that is not empty is extended by a dot and a name at a time. -/
theorem toList_foldl_extendPath {path : String} (begun : path ≠ "") (names : List String) :
    (names.foldl extendPath path).toList =
      path.toList ++ names.flatMap fun name => '.' :: name.toList := by
  induction names generalizing path with
  | nil => exact (List.append_nil _).symm
  | cons name names ih =>
      have extended : (extendPath path name).toList = path.toList ++ '.' :: name.toList := by
        rw [extendPath, if_neg fun empty => begun (String.isEmpty_iff.mp empty),
          String.toList_append, String.toList_append, List.append_assoc]
        rfl
      have nonempty : extendPath path name ≠ "" := by
        intro empty
        rw [empty] at extended
        exact List.append_ne_nil_of_right_ne_nil _ (List.cons_ne_nil _ _) extended.symm
      rw [List.foldl_cons, ih nonempty, extended, List.flatMap_cons, List.append_assoc]

/-- The alias of a written path is that of its text, unless the path starts with an
empty name. -/
theorem pathAlias_relationNames (relation : String) (named : relation.toList.head? ≠ some '.') :
    pathAlias (relationNames relation) = relationAlias relation := by
  refine congrArg relationAlias ?_
  unfold relationNames
  cases cut : Text.segments '.' relation.toList with
  | nil => exact absurd cut (Text.segments_ne_nil '.' relation.toList)
  | cons first others =>
      have rebuilt := Text.eq_of_segments _ _ _ _ cut
      rw [← String.toList_inj, rebuilt]
      by_cases begun : first = []
      · cases others with
        | nil =>
            rw [begun]
            rfl
        | cons other others =>
            rw [rebuilt, begun] at named
            exact absurd rfl named
      · have nonempty : String.ofList first ≠ "" := by
          intro empty
          exact begun (by simpa using congrArg String.toList empty)
        refine (toList_foldl_extendPath nonempty (others.map String.ofList)).trans ?_
        rw [String.toList_ofList, List.flatMap_map]
        simp only [String.toList_ofList]

/-- Characters of the text of a path are characters of its names, or dots. -/
theorem mem_pathText {names : List String} {character : Char}
    (member : character ∈ (pathText names).toList) :
    (∃ name ∈ names, character ∈ name.toList) ∨ character = '.' := by
  have extended : ∀ (names : List String) (path : String),
      character ∈ (names.foldl extendPath path).toList →
        character ∈ path.toList ∨ (∃ name ∈ names, character ∈ name.toList) ∨ character = '.' := by
    intro names
    induction names with
    | nil => exact fun path member => .inl member
    | cons name names ih =>
        intro path member
        rcases ih (extendPath path name) member with inPath | ⟨other, among, inOther⟩ | dot
        · unfold extendPath at inPath
          split at inPath
          · exact .inr (.inl ⟨name, List.mem_cons_self, inPath⟩)
          · rw [String.toList_append, String.toList_append] at inPath
            rcases List.mem_append.mp inPath with before | inName
            · rcases List.mem_append.mp before with inPath | dot
              · exact .inl inPath
              · exact .inr (.inr (List.mem_singleton.mp dot))
            · exact .inr (.inl ⟨name, List.mem_cons_self, inName⟩)
        · exact .inr (.inl ⟨other, List.mem_cons_of_mem name among, inOther⟩)
        · exact .inr (.inr dot)
  rcases extended names "" member with impossible | found
  · exact absurd impossible List.not_mem_nil
  · exact found

/-- An alias has underscores where its path has dots. -/
theorem mem_relationAlias {path : String} {character : Char}
    (member : character ∈ (relationAlias path).toList) :
    character = '_' ∨ character ∈ path.toList ∧ character ≠ '.' := by
  rw [relationAlias, String.toList_ofList, Text.substitute] at member
  obtain ⟨other, inPath, written⟩ := List.mem_flatMap.mp member
  split at written
  · left
    simpa using written
  · next kept =>
      rw [List.mem_singleton.mp written]
      exact .inr ⟨inPath, kept⟩

/-- The segments of a text have its characters without the separators. -/
theorem mem_segments {separator character : Char} {characters segment : List Char}
    (among : segment ∈ Text.segments separator characters) (member : character ∈ segment) :
    character ∈ characters := by
  induction characters generalizing segment with
  | nil =>
      rw [Text.segments, List.mem_singleton] at among
      exact absurd (among ▸ member) List.not_mem_nil
  | cons first rest ih =>
      rw [Text.segments] at among
      split at among
      · rcases List.mem_cons.mp among with rfl | later
        · exact absurd member List.not_mem_nil
        · exact List.mem_cons_of_mem first (ih later member)
      · cases found : Text.segments separator rest with
        | nil =>
            rw [found, List.mem_singleton] at among
            rw [among, List.mem_singleton] at member
            exact member ▸ List.mem_cons_self
        | cons piece pieces =>
            rw [found] at among
            rcases List.mem_cons.mp among with rfl | later
            · rcases List.mem_cons.mp member with rfl | inPiece
              · exact List.mem_cons_self
              · exact List.mem_cons_of_mem first
                  (ih (found ▸ List.mem_cons_self) inPiece)
            · exact List.mem_cons_of_mem first
                (ih (found ▸ List.mem_cons_of_mem piece later) member)

/-- The alias of a written path has the characters of the path, with underscores for
dots. -/
theorem mem_pathAlias {relation : String} {character : Char}
    (member : character ∈ (pathAlias (relationNames relation)).toList) :
    character = '_' ∨ character ∈ relation.toList ∧ character ≠ '.' := by
  rcases mem_relationAlias member with underscore | ⟨inText, notDot⟩
  · exact .inl underscore
  · rcases mem_pathText inText with ⟨name, among, inName⟩ | dot
    · obtain ⟨segment, inSegments, rfl⟩ := List.mem_map.mp among
      rw [String.toList_ofList] at inName
      exact .inr ⟨mem_segments inSegments inName, notDot⟩
    · exact absurd dot notDot

/-- A field path is a single name, or what stands before its last dot and what stands
behind it. -/
theorem FieldPath.ofText_cases (path : String) :
    FieldPath.ofText path = ⟨none, path⟩ ∧ '.' ∉ path.toList ∨
      ∃ relation field, FieldPath.ofText path = ⟨some relation, field⟩ ∧
        path = relation ++ "." ++ field ∧ '.' ∉ field.toList := by
  unfold ofText
  cases split : Text.splitAtLast '.' path.toList with
  | none => exact .inl ⟨rfl, (Text.splitAtLast_eq_none_iff _ _).mp split⟩
  | some parts =>
      obtain ⟨before, after⟩ := parts
      refine .inr ⟨String.ofList before, String.ofList after, rfl, ?_, ?_⟩
      · rw [← String.toList_inj, Text.eq_of_splitAtLast _ _ _ _ split]
        simp only [String.toList_append, String.toList_ofList, List.append_assoc]
        rfl
      · rw [String.toList_ofList]
        exact Text.not_mem_of_splitAtLast _ _ _ _ split

/-! ## Paths and hops -/

/-- A path from the root model along declared relations, and the model it reaches. -/
inductive DeclaredPath (context : Context) : List String → Model → Prop where
  | root : DeclaredPath context [] context.root
  | step {names : List String} {parent model : Model} {name table : String} {relation : Relation} :
      DeclaredPath context names parent →
      parent.relation? name = some relation →
      relation.relatedTable? = some table →
      context.catalog.modelOf? context.root table = some model →
      DeclaredPath context (names ++ [name]) model

section Paths

variable {context : Context} {names : List String} {name : String} {model : Model}

theorem DeclaredPath.eq_root (path : DeclaredPath context [] model) : model = context.root := by
  generalize empty : ([] : List String) = names at path
  cases path with
  | root => rfl
  | step before found fixed registered => simp at empty

/-- A path with one more name goes along the relation of that name. -/
theorem DeclaredPath.exists_step (path : DeclaredPath context (names ++ [name]) model) :
    ∃ parent relation table, DeclaredPath context names parent ∧
      parent.relation? name = some relation ∧ relation.relatedTable? = some table ∧
      context.catalog.modelOf? context.root table = some model := by
  generalize extended : names ++ [name] = longer at path
  cases path with
  | root => simp at extended
  | step before found fixed registered =>
      obtain ⟨rfl, same⟩ := List.append_inj' extended rfl
      cases same
      exact ⟨_, _, _, before, found, fixed, registered⟩

/-- A declared path reaches one model. -/
theorem DeclaredPath.unique {other : Model} (path : DeclaredPath context names model)
    (again : DeclaredPath context names other) : model = other := by
  induction path generalizing other with
  | root => exact again.eq_root.symm
  | step before found fixed registered ih =>
      obtain ⟨parent, relation, table, before', found', fixed', registered'⟩ := again.exists_step
      cases ih before'
      cases found.symm.trans found'
      cases fixed.symm.trans fixed'
      exact Option.some.inj (registered.symm.trans registered')

end Paths

/-- A hop on a declared path: the path before it, its name, the keys of its relation,
and the model that it reaches. -/
structure DeclaredHop (context : Context) (names : List String) (name : String) (keys : JoinKeys)
    (related : Model) : Prop where
  declared : ∃ parent relation table,
    DeclaredPath context names parent ∧ parent.relation? name = some relation ∧
      relation.joinKeys? = some keys ∧ relation.relatedTable? = some table ∧
      context.catalog.modelOf? context.root table = some related

variable {context : Context} {names : List String} {name : String} {keys : JoinKeys}
  {related parent : Model}

theorem DeclaredHop.path (hop : DeclaredHop context names name keys related) :
    DeclaredPath context (names ++ [name]) related := by
  obtain ⟨parent, relation, table, before, found, _, fixed, registered⟩ := hop.declared
  exact .step before found fixed registered

/-- The hop of a name goes along the relation of that name. -/
theorem Catalog.hop_eq_ok_iff {catalog : Catalog} {root parent : Model} {name : String}
    {hop : Hop} :
    catalog.hop root parent name = .ok hop ↔
      ∃ relation related, parent.relation? name = some relation ∧
        catalog.related root name relation = .ok related ∧
        hop = ⟨name, relation, parent, related⟩ := by
  unfold Catalog.hop
  cases parent.relation? name with
  | none =>
      exact ⟨fun refused => (nomatch refused),
        fun ⟨_, _, impossible, _⟩ => (nomatch impossible)⟩
  | some relation =>
      simp only [Success.map_eq_ok_iff]
      constructor
      · rintro ⟨related, resolved, rfl⟩
        exact ⟨relation, related, rfl, resolved, rfl⟩
      · rintro ⟨_, related, same, resolved, rfl⟩
        cases same
        exact ⟨related, resolved, rfl⟩

theorem Catalog.name_of_hop {catalog : Catalog} {root parent : Model} {name : String} {hop : Hop}
    (made : catalog.hop root parent name = .ok hop) : hop.name = name := by
  obtain ⟨_, _, _, _, rfl⟩ := Catalog.hop_eq_ok_iff.mp made
  rfl

/-- The model that a relation reaches has the table of the relation. -/
theorem Catalog.related_eq_ok_some {catalog : Catalog} {root model : Model} {name : String}
    {relation : Relation} (resolved : catalog.related root name relation = .ok (some model)) :
    ∃ table, relation.relatedTable? = some table ∧ catalog.modelOf? root table = some model := by
  unfold related at resolved
  cases fixed : relation.relatedTable? with
  | none =>
      rw [fixed] at resolved
      cases resolved
  | some table =>
      rw [fixed] at resolved
      dsimp only at resolved
      cases registered : catalog.modelOf? root table with
      | none =>
          rw [registered] at resolved
          cases resolved
      | some found =>
          rw [registered] at resolved
          cases resolved
          exact ⟨table, rfl, registered⟩

/-- A hop that resolves from a declared path is declared. -/
theorem DeclaredHop.of_hop {hop : Hop} (before : DeclaredPath context names parent)
    (made : context.catalog.hop context.root parent name = .ok hop)
    (joined : hop.relation.joinKeys? = some keys) (reached : hop.related = some related) :
    DeclaredHop context names name keys related := by
  obtain ⟨relation, model?, found, resolved, rfl⟩ := Catalog.hop_eq_ok_iff.mp made
  cases reached
  obtain ⟨table, fixed, registered⟩ := Catalog.related_eq_ok_some resolved
  exact ⟨parent, relation, table, before, found, joined, fixed, registered⟩

/-- A walk takes the hop of the first name and goes on from where it leads. -/
theorem Catalog.walk_cons_eq_ok_iff {catalog : Catalog} {root parent : Model} {path name : String}
    {names : List String} {hops : List Hop} :
    catalog.walk root path (some parent) (name :: names) = .ok hops ↔
      ∃ hop rest, catalog.hop root parent name = .ok hop ∧
        catalog.walk root path hop.related names = .ok rest ∧ hop :: rest = hops := by
  rw [walk, Success.bind_eq_ok_iff]
  constructor
  · rintro ⟨hop, here, there⟩
    obtain ⟨rest, walked, same⟩ := (Success.bind_eq_ok_iff _ _ _).mp there
    exact ⟨hop, rest, here, walked, Except.ok.inj same⟩
  · rintro ⟨hop, rest, here, walked, rfl⟩
    exact ⟨hop, here, (Success.bind_eq_ok_iff _ _ _).mpr ⟨rest, walked, rfl⟩⟩

/-! ## What a hop refers to -/

/-- What the owner declares of a hop, under the alias of the hop, the alias of its
pivot table or the name of the row before it: the keys of the relation, the column of
the class, the column of deletion, and the tables. -/
inductive HopReference (context : Context) (names : List String) (name : String)
    (keys : JoinKeys) (related : Model) : Sql.Reference → Prop where
  | foreignKey :
      HopReference context names name keys related
        (.column ⟨keys.keyAlias (pathAlias (names ++ [name])), keys.foreignKey⟩)
  | localKey :
      HopReference context names name keys related
        (.column ⟨context.rowName names, keys.localKey⟩)
  | relatedPivotKey {pivot : PivotKeys} (through : keys.pivot = some pivot) :
      HopReference context names name keys related
        (.column ⟨pivotAlias (pathAlias (names ++ [name])), pivot.relatedPivotKey⟩)
  | relatedKey {pivot : PivotKeys} (through : keys.pivot = some pivot) :
      HopReference context names name keys related
        (.column ⟨pathAlias (names ++ [name]), pivot.relatedKey⟩)
  | className {tag : MorphTag} (polymorphic : keys.morph = some tag) :
      HopReference context names name keys related
        (.column ⟨pathAlias (names ++ [name]), tag.column⟩)
  | softDelete {column : String} (marked : related.softDelete = some column) :
      HopReference context names name keys related
        (.column ⟨pathAlias (names ++ [name]), column⟩)
  | joined :
      HopReference context names name keys related
        (.source ⟨keys.table, some (keys.keyAlias (pathAlias (names ++ [name])))⟩)
  | reached {pivot : PivotKeys} (through : keys.pivot = some pivot) :
      HopReference context names name keys related
        (.source ⟨pivot.table, some (pathAlias (names ++ [name]))⟩)

/-- What the owner declares of some hop on a declared path. -/
def DeclaredReference (context : Context) (reference : Sql.Reference) : Prop :=
  ∃ names name keys related, DeclaredHop context names name keys related ∧
    HopReference context names name keys related reference

end QueryGate
