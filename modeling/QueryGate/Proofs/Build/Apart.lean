import QueryGate.Proofs.Build.Capture
import QueryGate.Proofs.Build.Legs

/-!
# Orders that share their joins

The orders of a plan share the joins of a leg when they have the same alias for it, and the
pivot tables that are joined for a leg have no say in this. So orders along different paths
share what they should not where an alias does not tell the path, and a name is bound twice
where a leg has the name of the root table or the alias of a pivot table.

Legs that are apart have none of these clashes. They are what it takes for the plan to hold
the joins of every leg, each leg once and each name once (`sortPlan_separates`). It is
enough that the declared names are tidy and tell relations from the root table and from
pivot tables (`TidyNames`); nothing else keeps the legs apart.
-/

set_option autoImplicit false

namespace QueryGate

/-! ## Declared legs -/

section Declared

variable {context : Context} {names : List String} {name : String} {model : Model}

/-- The names up to a declared hop tell its keys and the model that it reaches. -/
theorem DeclaredHop.unique {keys keys' : JoinKeys} {related related' : Model}
    (hop : DeclaredHop context names name keys related)
    (again : DeclaredHop context names name keys' related') :
    keys = keys' ∧ related = related' := by
  obtain ⟨parent, relation, table, before, found, joined, _⟩ := hop.declared
  obtain ⟨parent', relation', table', before', found', joined', _⟩ := again.declared
  cases before.unique before'
  cases found.symm.trans found'
  exact ⟨Option.some.inj (joined.symm.trans joined'), hop.path.unique again.path⟩

/-- The hop that is taken from a declared path is the declared one. -/
theorem DeclaredHop.eq_of_hop {keys : JoinKeys} {related parent : Model} {hop : Hop}
    (declared : DeclaredHop context names name keys related)
    (before : DeclaredPath context names parent)
    (made : context.catalog.hop context.root parent name = .ok hop) :
    hop.relation.joinKeys? = some keys ∧ hop.related = some related := by
  obtain ⟨parent', relation', table, before', found', joined, fixed, registered⟩ :=
    declared.declared
  obtain ⟨relation, related', found, resolved, rfl⟩ := Catalog.hop_eq_ok_iff.mp made
  cases before.unique before'
  cases found.symm.trans found'
  rw [Catalog.related, fixed] at resolved
  dsimp only at resolved
  rw [registered] at resolved
  cases resolved
  exact ⟨joined, rfl⟩

/-- The leg goes along a declared relation. -/
def Leg.IsDeclared (context : Context) (leg : Leg) : Prop :=
  DeclaredHop context leg.before leg.name leg.keys leg.related

/-- Declared legs with the same names are the same. -/
theorem Leg.IsDeclared.eq_of_names_eq {leg other : Leg} (declared : leg.IsDeclared context)
    (declared' : other.IsDeclared context) (same : leg.names = other.names) : leg = other := by
  obtain ⟨before, name, keys, related⟩ := leg
  obtain ⟨before', name', keys', related'⟩ := other
  obtain ⟨rfl, last⟩ := List.append_inj' same rfl
  cases last
  obtain ⟨rfl, rfl⟩ := DeclaredHop.unique declared declared'
  rfl

end Declared

/-! ## Legs along a walk -/

section Walks

variable {context : Context} {path : String} {names before : List String} {parent : Model}
  {hops : List Hop}

/-- The legs along a walk are declared, and their names lead along it. -/
theorem declared_of_mem_legsAlong
    (walked : context.catalog.walk context.root path (some parent) names = .ok hops)
    (reached : DeclaredPath context before parent) {leg : Leg}
    (member : leg ∈ legsAlong before hops) :
    leg.IsDeclared context ∧ before <+: leg.before ∧ leg.names <+: before ++ names := by
  induction names generalizing parent before hops with
  | nil =>
      rw [Catalog.walk] at walked
      cases walked
      cases member
  | cons name names ih =>
      obtain ⟨hop, rest, here, there, rfl⟩ := Catalog.walk_cons_eq_ok_iff.mp walked
      cases Catalog.name_of_hop here
      rw [legsAlong] at member
      split at member
      · next keys related joined led =>
          have declared := DeclaredHop.of_hop reached here joined led
          rcases List.mem_cons.mp member with rfl | later
          · exact ⟨declared, List.prefix_rfl,
              ⟨names, by simp only [Leg.names, List.append_assoc, List.singleton_append]⟩⟩
          · rw [led] at there
            obtain ⟨further, longer, within⟩ := ih there declared.path later
            rw [List.append_assoc] at within
            exact ⟨further, (List.prefix_append _ _).trans longer, within⟩
      · cases member

/-- A declared leg whose names lead along a walk is a leg of it. -/
theorem mem_legsAlong_of_prefix
    (walked : context.catalog.walk context.root path (some parent) names = .ok hops)
    (reached : DeclaredPath context before parent) {leg : Leg}
    (declared : leg.IsDeclared context) (starts : before <+: leg.before)
    (leads : leg.names <+: before ++ names) : leg ∈ legsAlong before hops := by
  induction names generalizing parent before hops with
  | nil =>
      have longer := starts.length_le
      have shorter := leads.length_le
      simp only [Leg.names, List.append_nil, List.length_append, List.length_singleton] at shorter
      omega
  | cons name names ih =>
      obtain ⟨hop, rest, here, there, rfl⟩ := Catalog.walk_cons_eq_ok_iff.mp walked
      cases Catalog.name_of_hop here
      obtain ⟨more, along⟩ := starts
      rw [Leg.names, ← along, List.append_assoc, List.prefix_append_right_inj] at leads
      cases more with
      | nil =>
          rw [List.append_nil] at along
          obtain ⟨last, _⟩ := List.cons_prefix_cons.mp leads
          have declared' : DeclaredHop context before hop.name leg.keys leg.related := by
            rw [along, ← last]
            exact declared
          obtain ⟨joined, led⟩ := declared'.eq_of_hop reached here
          rw [legsAlong, joined, led]
          refine List.mem_cons.mpr (.inl ?_)
          cases leg
          cases along
          cases last
          rfl
      | cons next more =>
          obtain ⟨first, leads⟩ := List.cons_prefix_cons.mp leads
          cases first
          cases names with
          | nil => simp at leads
          | cons following names =>
              obtain ⟨hasKeys, hasModel⟩ := Catalog.joins_of_continued here there
              obtain ⟨keys, joined⟩ := Option.isSome_iff_exists.mp hasKeys
              obtain ⟨related, led⟩ := Option.isSome_iff_exists.mp hasModel
              have further := (DeclaredHop.of_hop reached here joined led).path
              rw [led] at there
              rw [legsAlong, joined, led]
              refine List.mem_cons.mpr (.inr (ih there further ?_ ?_))
              · exact ⟨more, by rw [← along, List.append_assoc]; rfl⟩
              · rw [Leg.names, ← along]
                simpa using leads

end Walks

/-! ## Legs of orders -/

section Orders

variable {context : Context} {keys : List SortKey} {plan : SortPlan}

/-- The legs of the orders of a plan are declared, and their names have no dots. -/
theorem Context.declared_of_mem_legs (planned : sortPlan context keys = (plan, none))
    {leg : Leg} (member : leg ∈ keys.flatMap context.legs) :
    leg.IsDeclared context ∧ ∀ name ∈ leg.names, '.' ∉ name.toList := by
  obtain ⟨key, listed, member⟩ := List.mem_flatMap.mp member
  rw [Context.legs] at member
  rcases Context.orderHops_cases planned listed with none | ⟨path, _, _, walked⟩
  · rw [none] at member
    cases member
  · obtain ⟨declared, _, within⟩ := declared_of_mem_legsAlong walked .root member
    exact ⟨declared, fun name among => dotless_of_mem_relationNames (within.subset among)⟩

/-- Two orders have the legs of their common names in common. -/
theorem Context.mem_legs_iff_prefix (planned : sortPlan context keys = (plan, none))
    {leg : Leg} (member : leg ∈ keys.flatMap context.legs) {key : SortKey} (listed : key ∈ keys) :
    leg ∈ context.legs key ↔ leg.names <+: (context.orderHops key).map Hop.name := by
  obtain ⟨declared, _⟩ := Context.declared_of_mem_legs planned member
  rw [Context.legs]
  rcases Context.orderHops_cases planned listed with none | ⟨path, _, _, walked⟩
  · rw [none]
    simp [legsAlong, Leg.names]
  · rw [Context.names_of_resolve walked]
    constructor
    · intro member
      exact (declared_of_mem_legsAlong walked .root member).2.2
    · intro leads
      exact mem_legsAlong_of_prefix walked .root declared List.nil_prefix leads

/-- The last leg of an order that is not skipped is its last hop. -/
theorem getLast?_legsAlong {hops : List Hop} (joins : ∀ hop ∈ hops, hop.Joins)
    (before : List String) {last : Hop} (ends : hops.getLast? = some last) :
    ∃ leg, (legsAlong before hops).getLast? = some leg ∧
      leg.names = before ++ hops.map Hop.name ∧
      last.relation.joinKeys? = some leg.keys ∧ last.related = some leg.related := by
  induction hops generalizing before with
  | nil => cases ends
  | cons hop rest ih =>
      obtain ⟨⟨hasKeys, hasModel⟩, later⟩ := List.forall_mem_cons.mp joins
      obtain ⟨keys, joined⟩ := Option.isSome_iff_exists.mp hasKeys
      obtain ⟨related, led⟩ := Option.isSome_iff_exists.mp hasModel
      rw [legsAlong, joined, led]
      cases rest with
      | nil =>
          cases ends
          exact ⟨⟨before, hop.name, keys, related⟩, rfl, rfl, joined, led⟩
      | cons next rest =>
          obtain ⟨leg, found, names, reached⟩ := ih later (before ++ [hop.name]) ends
          refine ⟨leg, ?_, ?_, reached⟩
          · rw [List.getLast?_cons, found]
            rfl
          · rw [names, List.append_assoc]
            rfl

/-! ## Names that clash -/

/-- The joins of a leg bind its alias and that of its pivot table. -/
theorem Leg.rowNames_joins (context : Context) (leg : Leg) :
    (leg.joins context).map (fun join => join.source.rowName) =
      leg.keys.boundNames leg.hopAlias := by
  rw [Leg.joins, hopJoins, JoinKeys.boundNames]
  cases leg.keys.pivot <;> rfl

/-- The legs of orders do not clash. Those with the same alias have the same names, and none
has the name of the root table or the alias of a pivot table. -/
structure LegsApart (context : Context) (keys : List SortKey) : Prop where
  aliases : ∀ leg ∈ keys.flatMap context.legs, ∀ other ∈ keys.flatMap context.legs,
    leg.hopAlias = other.hopAlias → leg.names = other.names
  root : ∀ leg ∈ keys.flatMap context.legs,
    context.root.table ∉ leg.keys.boundNames leg.hopAlias
  pivots : ∀ leg ∈ keys.flatMap context.legs, ∀ other ∈ keys.flatMap context.legs,
    other.keys.pivot.isSome = true → leg.hopAlias ≠ pivotAlias other.hopAlias

/-- The plan has the joins of all legs of orders, each leg once, and they bind each name
once and the name of the root table not at all. -/
structure SortPlan.JoinsApart (context : Context) (keys : List SortKey) (plan : SortPlan)
    (joined : List Leg) : Prop where
  once : joined.Nodup
  legs : ∀ leg, leg ∈ joined ↔ leg ∈ keys.flatMap context.legs
  joins : plan.joins = joined.flatMap (Leg.joins context)
  names : (context.root.table :: plan.joins.map fun join => join.source.rowName).Nodup

/-- Legs that are passed have an alias each, and are among those that have been added. -/
theorem Leg.nodup_addAll (legs : List Leg) {passed : List Leg}
    (fresh : (passed.map Leg.hopAlias).Nodup) :
    ((Leg.addAll passed legs).map Leg.hopAlias).Nodup ∧
      ∀ leg ∈ Leg.addAll passed legs, leg ∈ passed ∨ leg ∈ legs := by
  induction legs generalizing passed with
  | nil => exact ⟨fresh, fun leg member => .inl member⟩
  | cons first legs ih =>
      have added : ((Leg.add passed first).map Leg.hopAlias).Nodup ∧
          ∀ leg ∈ Leg.add passed first, leg ∈ passed ∨ leg = first := by
        rw [Leg.add]
        split
        · exact ⟨fresh, fun leg member => .inl member⟩
        · next new =>
            rw [List.contains_iff_mem] at new
            refine ⟨?_, fun leg member => by simpa using member⟩
            rw [List.map_append, List.map_singleton, List.nodup_append]
            refine ⟨fresh, List.nodup_singleton _, ?_⟩
            rintro hopAlias before _ last rfl
            exact new (List.mem_singleton.mp last ▸ before)
      obtain ⟨distinct, among⟩ := ih added.1
      refine ⟨distinct, fun leg member => ?_⟩
      rcases among leg member with before | later
      · rcases added.2 leg before with old | rfl
        · exact .inl old
        · exact .inr List.mem_cons_self
      · exact .inr (List.mem_cons_of_mem first later)

variable {joined : List Leg}

/-- Legs that bind no name together are apart. -/
theorem LegsApart.boundNames_disjoint (apart : LegsApart context keys)
    (planned : sortPlan context keys = (plan, none)) {leg other : Leg}
    (member : leg ∈ keys.flatMap context.legs) (member' : other ∈ keys.flatMap context.legs)
    (distinct : leg ≠ other) :
    (leg.keys.boundNames leg.hopAlias).Disjoint (other.keys.boundNames other.hopAlias) := by
  obtain ⟨declared, _⟩ := Context.declared_of_mem_legs planned member
  obtain ⟨declared', _⟩ := Context.declared_of_mem_legs planned member'
  have aliases (same : leg.hopAlias = other.hopAlias) : False :=
    distinct (declared.eq_of_names_eq declared' (apart.aliases leg member other member' same))
  intro name binds binds'
  rcases JoinKeys.mem_boundNames_iff.mp binds with rfl | ⟨through, rfl⟩
  · rcases JoinKeys.mem_boundNames_iff.mp binds' with same | ⟨through', same⟩
    · exact aliases same
    · exact apart.pivots leg member other member' through' same
  · rcases JoinKeys.mem_boundNames_iff.mp binds' with same | ⟨_, same⟩
    · exact apart.pivots other member' leg member through same.symm
    · exact aliases (pivotAlias_injective same)

theorem LegsApart.joinsApart (apart : LegsApart context keys)
    (planned : sortPlan context keys = (plan, none)) :
    plan.JoinsApart context keys (Leg.addAll [] (keys.flatMap context.legs)) := by
  have made := sortPlan_made planned
  have none : (([] : List Leg).map Leg.hopAlias).Nodup := List.nodup_nil
  obtain ⟨distinct, among⟩ := Leg.nodup_addAll (keys.flatMap context.legs) none
  have once := distinct.of_map
  have legs (leg : Leg) : leg ∈ Leg.addAll [] (keys.flatMap context.legs) ↔
      leg ∈ keys.flatMap context.legs := by
    constructor
    · intro member
      exact (among leg member).resolve_left List.not_mem_nil
    · intro member
      have passes :
          leg.hopAlias ∈ (Leg.addAll [] (keys.flatMap context.legs)).map Leg.hopAlias := by
        rw [Leg.mem_aliases_addAll]
        exact .inr (List.mem_map_of_mem member)
      obtain ⟨other, member', same⟩ := List.mem_map.mp passes
      have listed := (among other member').resolve_left List.not_mem_nil
      have names := apart.aliases other listed leg member same
      obtain ⟨declared, _⟩ := Context.declared_of_mem_legs planned member
      obtain ⟨declared', _⟩ := Context.declared_of_mem_legs planned listed
      rw [← declared'.eq_of_names_eq declared names]
      exact member'
  refine ⟨once, legs, made.joins, ?_⟩
  rw [made.joins, List.map_flatMap, List.nodup_cons, List.nodup_flatMap]
  simp only [Leg.rowNames_joins, List.mem_flatMap, not_exists, not_and]
  refine ⟨fun leg member => apart.root leg ((legs leg).mp member),
    fun leg _ => leg.keys.nodup_boundNames leg.hopAlias, ?_⟩
  exact once.pairwise_of_forall_ne fun leg member other member' distinct =>
    apart.boundNames_disjoint planned ((legs leg).mp member) ((legs other).mp member') distinct

theorem SortPlan.JoinsApart.legsApart (holds : plan.JoinsApart context keys joined) :
    LegsApart context keys := by
  have names := holds.names
  rw [holds.joins, List.map_flatMap, List.nodup_cons, List.nodup_flatMap] at names
  simp only [Leg.rowNames_joins, List.mem_flatMap, not_exists, not_and] at names
  obtain ⟨root, _, apart⟩ := names
  have symmetric : Std.Symm (Function.onFun List.Disjoint fun leg : Leg =>
      leg.keys.boundNames leg.hopAlias) := ⟨fun _ _ apart => apart.symm⟩
  have disjoint {leg other : Leg} (member : leg ∈ keys.flatMap context.legs)
      (member' : other ∈ keys.flatMap context.legs) (distinct : leg ≠ other) :
      (leg.keys.boundNames leg.hopAlias).Disjoint (other.keys.boundNames other.hopAlias) :=
    apart.forall ((holds.legs leg).mpr member) ((holds.legs other).mpr member') distinct
  refine ⟨?_, fun leg member => root leg ((holds.legs leg).mpr member), ?_⟩
  · intro leg member other member' same
    by_contra distinct
    refine disjoint member member' (fun equal => distinct (by rw [equal]))
      (JoinKeys.mem_boundNames_iff.mpr (.inl rfl)) (JoinKeys.mem_boundNames_iff.mpr (.inl same))
  · intro leg member other member' through same
    by_cases equal : leg = other
    · subst equal
      exact pivotAlias_ne_of_length_le (Nat.le_refl _) same.symm
    · exact disjoint member member' equal (JoinKeys.mem_boundNames_iff.mpr (.inl rfl))
        (JoinKeys.mem_boundNames_iff.mpr (.inr ⟨through, same⟩))

end Orders

/-! ## Tidy names -/

/-- The names of relations are tidy, and none is the name of the pivot table. The root
table's name has no two underscores in a row, and no relation of the root has it. -/
structure TidyNames (context : Context) : Prop where
  relations : ∀ model ∈ context.root :: context.catalog.map Prod.snd,
    ∀ entry ∈ model.relations, IsTidy entry.1 ∧ entry.1 ≠ pivotName
  root : ¬ ['_', '_'] <:+: context.root.table.toList
  unnamed : ∀ entry ∈ context.root.relations, entry.1 ≠ context.root.table

namespace TidyNames

variable {context : Context}

theorem mem_of_relation? {model : Model} {name : String} {relation : Relation}
    (found : model.relation? name = some relation) : (name, relation) ∈ model.relations := by
  obtain ⟨before, after, split, _⟩ := List.lookup_eq_some_iff.mp found
  rw [split]
  exact List.mem_append_right _ List.mem_cons_self

theorem mem_of_modelOf? {table : String} {model : Model}
    (registered : context.catalog.modelOf? context.root table = some model) :
    model ∈ context.root :: context.catalog.map Prod.snd := by
  unfold Catalog.modelOf? at registered
  split at registered
  · cases registered
    exact List.mem_cons_self
  · obtain ⟨before, after, split, _⟩ := List.lookup_eq_some_iff.mp registered
    rw [split]
    simp

/-- Declared paths have tidy names, and do not start with the root table's name. -/
theorem of_path (tidy : TidyNames context) {names : List String} {model : Model}
    (path : DeclaredPath context names model) :
    model ∈ context.root :: context.catalog.map Prod.snd ∧
      (∀ name ∈ names, IsTidy name ∧ name ≠ pivotName) ∧
      names.head? ≠ some context.root.table := by
  induction path with
  | root =>
      refine ⟨List.mem_cons_self, ?_, nofun⟩
      exact fun _ impossible => absurd impossible List.not_mem_nil
  | @step names parent model name table relation before found fixed registered ih =>
      obtain ⟨among, tidyNames, first⟩ := ih
      have entry := mem_of_relation? found
      refine ⟨mem_of_modelOf? registered, ?_, ?_⟩
      · intro other member
        rcases List.mem_append.mp member with earlier | last
        · exact tidyNames other earlier
        · rw [List.mem_singleton.mp last]
          exact tidy.relations parent among _ entry
      · cases names with
        | nil =>
            rw [before.eq_root] at entry
            intro same
            exact tidy.unnamed _ entry (Option.some.inj same)
        | cons first names => exact first

/-- Two underscores in a row are in every alias of several names. -/
theorem infix_pathAlias {name next : String} (begun : name ≠ "") {names : List String}
    (dotless : ∀ other ∈ name :: next :: names, '.' ∉ other.toList) :
    ['_', '_'] <:+: (pathAlias (name :: next :: names)).toList := by
  rw [toList_pathAlias_cons begun _ dotless]
  exact ⟨name.toList, next.toList ++ spacedNames names, by simp [spacedNames]⟩

/-- The root table's name is neither the alias of a path nor that of a pivot table. -/
theorem root_not_mem_boundNames (tidy : TidyNames context) {names : List String} {name : String}
    {keys : JoinKeys} {related : Model} (declared : DeclaredHop context names name keys related)
    (dotless : ∀ other ∈ names ++ [name], '.' ∉ other.toList) :
    context.root.table ∉ keys.boundNames (pathAlias (names ++ [name])) := by
  obtain ⟨_, tidyNames, first⟩ := tidy.of_path declared.path
  rw [JoinKeys.mem_boundNames_iff]
  rintro (same | ⟨_, same⟩)
  · cases names with
    | nil =>
        rw [List.nil_append, pathAlias_singleton (dotless name List.mem_cons_self)] at same
        exact first (congrArg some same.symm)
    | cons start names =>
        have begun := (tidyNames start List.mem_cons_self).1.1
        refine tidy.root ?_
        rw [same]
        cases names with
        | nil => exact infix_pathAlias begun dotless
        | cons next names => exact infix_pathAlias begun dotless
  · refine tidy.root ?_
    rw [same, toList_pivotAlias]
    refine ⟨(pathAlias (names ++ [name])).toList, "pivot".toList, ?_⟩
    rw [List.append_assoc]
    rfl

/-- Tidy names keep the legs of all orders apart. -/
theorem legsApart (tidy : TidyNames context) {keys : List SortKey} {plan : SortPlan}
    (planned : sortPlan context keys = (plan, none)) : LegsApart context keys := by
  have declared {leg : Leg} (member : leg ∈ keys.flatMap context.legs) :=
    Context.declared_of_mem_legs planned member
  have names {leg : Leg} (member : leg ∈ keys.flatMap context.legs) :=
    (tidy.of_path (declared member).1.path).2.1
  have path {leg : Leg} (member : leg ∈ keys.flatMap context.legs) : TidyPath leg.names :=
    fun name among => ⟨(names member name among).1, (declared member).2 name among⟩
  refine ⟨?_, ?_, ?_⟩
  · intro leg member other member' same
    exact (path member).pathAlias_injective (path member') same
  · intro leg member
    exact tidy.root_not_mem_boundNames (declared member).1 (declared member).2
  · intro leg member other member' _ same
    have some : other.names ≠ [] := by simp [Leg.names]
    have longer := (path member).eq_append_pivotName (path member') some same
    have among : pivotName ∈ leg.names := by
      rw [longer]
      exact List.mem_append_right _ List.mem_cons_self
    exact (names member pivotName among).2 rfl

end TidyNames

/-! ## Plans -/

/-- The order is by a column of the row of its last leg, which goes along the last hop. -/
structure SortPlan.OrdersBy (context : Context) (plan : SortPlan) (key : SortKey)
    (hops : List Hop) (leg : Leg) : Prop where
  last : (context.legs key).getLast? = some leg
  names : leg.names = hops.map Hop.name
  hop : ∃ hop, hops.getLast? = some hop ∧ hop.relation.joinKeys? = some leg.keys ∧
    hop.related = some leg.related
  term : ⟨⟨leg.hopAlias, (FieldPath.ofText key.field).field⟩, key.direction⟩ ∈ plan.orders

variable {context : Context} {keys : List SortKey} {plan : SortPlan}

/-- An order along a path whose relations all have a fixed table is by a column of the row
of its last leg. -/
theorem exists_ordersBy (planned : sortPlan context keys = (plan, none)) {key : SortKey}
    (listed : key ∈ keys) {path : String} {hops : List Hop}
    (along : (FieldPath.ofText key.field).relation = some path) (other : path ≠ pivotName)
    (walked : context.resolve path = .ok hops)
    (fixed : ∀ hop ∈ hops, hop.relation.isLoose = false) :
    ∃ leg, plan.OrdersBy context key hops leg := by
  have joins := (Context.joins_iff_of_resolve walked).mpr fixed
  have taken : context.orderHops key = hops := by
    simp [Context.orderHops, along, other, walked, Except.toOption]
  obtain ⟨hop, ends⟩ : ∃ hop, hops.getLast? = some hop :=
    ⟨_, List.getLast?_eq_some_getLast (Context.ne_nil_of_resolve walked)⟩
  obtain ⟨leg, last, names, joined, led⟩ := getLast?_legsAlong joins [] ends
  rw [List.nil_append] at names
  refine ⟨leg, by rw [Context.legs, taken, last], names, ⟨hop, ends, joined, led⟩, ?_⟩
  have unskipped : context.skips key = false := by
    simp only [Context.skips, along, if_neg other, taken]
    exact (Context.joins_iff_last walked).mp joins
  rw [(sortPlan_made planned).orders, List.mem_filterMap]
  refine ⟨key, listed, ?_⟩
  simp only [Context.orderTerm?, unskipped, Bool.false_eq_true, if_false, Context.orderTable?,
    along, if_neg other, Option.map_some, Leg.hopAlias, names, Context.names_of_resolve walked]

/-- The joins of an order are those of its legs. -/
def Context.orderJoins (context : Context) (key : SortKey) : List Sql.Join :=
  (context.legs key).flatMap (Leg.joins context)

/-- Two orders share the joins of their common names. -/
theorem LegsApart.shared (apart : LegsApart context keys)
    (planned : sortPlan context keys = (plan, none)) {key other : SortKey} (listed : key ∈ keys)
    (listed' : other ∈ keys) (join : Sql.Join) :
    join ∈ context.orderJoins key ∧ join ∈ context.orderJoins other ↔
      ∃ leg ∈ context.legs key, leg.names <+: (context.orderHops other).map Hop.name ∧
        join ∈ leg.joins context := by
  have among {leg : Leg} {key : SortKey} (listed : key ∈ keys) (member : leg ∈ context.legs key) :
      leg ∈ keys.flatMap context.legs := List.mem_flatMap.mpr ⟨key, listed, member⟩
  have bound {leg : Leg} (inLeg : join ∈ leg.joins context) :
      join.source.rowName ∈ leg.keys.boundNames leg.hopAlias :=
    leg.rowNames_joins context ▸ List.mem_map_of_mem inLeg
  simp only [Context.orderJoins, List.mem_flatMap]
  constructor
  · rintro ⟨⟨leg, member, inLeg⟩, ⟨leg', member', inLeg'⟩⟩
    have same : leg = leg' := by
      by_contra distinct
      exact apart.boundNames_disjoint planned (among listed member) (among listed' member')
        distinct (bound inLeg) (bound inLeg')
    rw [← same] at member'
    exact ⟨leg, member,
      (Context.mem_legs_iff_prefix planned (among listed member) listed').mp member', inLeg⟩
  · rintro ⟨leg, member, leads, inLeg⟩
    have member' := (Context.mem_legs_iff_prefix planned (among listed member) listed').mpr leads
    exact ⟨⟨leg, member, inLeg⟩, ⟨leg, member', inLeg⟩⟩

/-- The plan of orders has the joins of all their legs, each leg once and each name once,
exactly when the legs are apart, and they are where the declared names are tidy. Every order
along a path whose relations all have a fixed table is by a column of the row of its last
leg. Where the legs are apart, two orders share exactly the joins of their common names. -/
theorem sortPlan_separates (planned : sortPlan context keys = (plan, none)) :
    ((∃ joined, plan.JoinsApart context keys joined) ↔ LegsApart context keys) ∧
      (TidyNames context → LegsApart context keys) ∧
      (∀ key ∈ keys, ∀ path hops, (FieldPath.ofText key.field).relation = some path →
        path ≠ pivotName → context.resolve path = .ok hops →
        (∀ hop ∈ hops, hop.relation.isLoose = false) →
        ∃ leg, plan.OrdersBy context key hops leg) ∧
      (LegsApart context keys → ∀ key ∈ keys, ∀ other ∈ keys, ∀ join,
        join ∈ context.orderJoins key ∧ join ∈ context.orderJoins other ↔
          ∃ leg ∈ context.legs key, leg.names <+: (context.orderHops other).map Hop.name ∧
            join ∈ leg.joins context) := by
  refine ⟨⟨?_, ?_⟩, ?_, ?_, ?_⟩
  · rintro ⟨joined, holds⟩
    exact holds.legsApart
  · intro apart
    exact ⟨_, apart.joinsApart planned⟩
  · intro tidy
    exact tidy.legsApart planned
  · intro key listed path hops along other walked fixed
    exact exists_ordersBy planned listed along other walked fixed
  · intro apart key listed other listed' join
    exact apart.shared planned listed listed' join

/-- The names of posts, authors, teams and notes are tidy, so the legs of two orders along
them are apart. -/
theorem sortPlan_separates_notedTeams :
    ∃ plan joined,
      sortPlan notedTeams [⟨"author.teams.name", .ascending⟩, ⟨"author.name", .ascending⟩] =
        (plan, none) ∧
      plan.JoinsApart notedTeams
        [⟨"author.teams.name", .ascending⟩, ⟨"author.name", .ascending⟩] joined := by
  have tidy : TidyNames notedTeams := by
    constructor <;> decide
  have plans : ∃ plan, sortPlan notedTeams
      [⟨"author.teams.name", .ascending⟩, ⟨"author.name", .ascending⟩] = (plan, none) := ⟨_, rfl⟩
  obtain ⟨plan, planned⟩ := plans
  obtain ⟨apart, tidies, _⟩ := sortPlan_separates planned
  obtain ⟨joined, holds⟩ := apart.mpr (tidies tidy)
  exact ⟨plan, joined, planned, holds⟩

/-- Posts in teams that people own, and posts that robots own in the name of a team. -/
def ownedTeams : Context :=
  { backend := .sqlite
    root :=
      { table := "posts"
        relations :=
          [("team", .belongsTo "teams" "team_id" "id"),
            ("team__owner", .belongsTo "robots" "robot_id" "id")] }
    catalog :=
      [("robots", { table := "robots" }),
        ("teams",
          { table := "teams", relations := [("owner", .belongsTo "users" "owner_id" "id")] }),
        ("users", { table := "users" })] }

/-- An order by the name of the robot is by the name of the owner of the team: the robots
are not joined, since their alias is that of the owners. -/
theorem not_sortPlan_separates_ownedTeams :
    ∃ plan,
      sortPlan ownedTeams [⟨"team.owner.name", .ascending⟩, ⟨"team__owner.name", .ascending⟩] =
        (plan, none) ∧
      plan.joins.map Sql.Join.source =
        [⟨"teams", some "team"⟩, ⟨"users", some "team__owner"⟩] ∧
      plan.orders =
        [⟨⟨"team__owner", "name"⟩, .ascending⟩, ⟨⟨"team__owner", "name"⟩, .ascending⟩] ∧
      ∃ hop, ownedTeams.resolve "team__owner" = .ok [hop] ∧
        hop.related = some { table := "robots" } :=
  ⟨_, rfl, rfl, rfl, _, rfl, rfl⟩

end QueryGate
