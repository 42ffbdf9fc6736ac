import Mathlib.Data.Sym.Sym2
import QueryGate.Proofs.Build.Levels
import QueryGate.Proofs.Sql.Conjuncts

/-!
# Conditions and orders go along relations alike

A test of a related row and an order by a related column go along the same hops, the one
by existence conditions and the other by joins. What they ask of the rows of a hop is the
same: the same tables under the same aliases, and the same constraints on them, where
the two columns of an equality may stand in either order (`HopLevel.Agrees`).

Every hop of an order should have joins, then, as every hop of a test has its level. The
plan misses some. It tells what has been joined by the alias alone, and where a path starts
with empty relation names its alias stays the empty one from hop to hop, so that the next
hop passes for the one before. This is a defect of the plan: the level of such a hop is
there, its rows are not joined, and the order is by a column of another table
(`not_joins_agree_namelessChain`). Along a single path it is the only one. Every hop but
those after the first that are reached by empty names only has its joins, and they agree
with its level (`joins_agree_with_levels`).
-/

set_option autoImplicit false

namespace QueryGate

open Sql (Condition Junction Truth)

/-! ## Aliases along a path -/

theorem extendPath_eq_empty_iff (path name : String) :
    extendPath path name = "" ↔ path = "" ∧ name = "" := by
  unfold extendPath
  split
  · next empty => simp [String.isEmpty_iff.mp empty]
  · next begun =>
      have nonempty : path ≠ "" := fun empty => begun (String.isEmpty_iff.mpr empty)
      refine iff_of_false (fun empty => ?_) (fun both => nonempty both.1)
      have characters := congrArg String.toList empty
      simp at characters

/-- The text of a path is empty when all of its names are. -/
theorem pathText_eq_empty_iff (names : List String) :
    pathText names = "" ↔ ∀ name ∈ names, name = "" := by
  induction names using List.reverseRecOn with
  | nil => exact iff_of_true rfl fun _ impossible => absurd impossible List.not_mem_nil
  | append_singleton names name ih =>
      rw [pathText_append_singleton, extendPath_eq_empty_iff, ih]
      simp only [List.mem_append, List.mem_singleton, or_imp, forall_and, forall_eq]

theorem toList_relationAlias (path : String) :
    (relationAlias path).toList = Text.substitute '.' ['_', '_'] path.toList :=
  String.toList_ofList

/-- A path that has begun has a longer alias with each name. -/
theorem length_pathAlias_lt {names : List String} (begun : pathText names ≠ "") (name : String) :
    (pathAlias names).toList.length < (pathAlias (names ++ [name])).toList.length := by
  have extended : (pathText (names ++ [name])).toList =
      (pathText names).toList ++ '.' :: name.toList := by
    rw [pathText_append_singleton, extendPath,
      if_neg fun empty => begun (String.isEmpty_iff.mp empty)]
    simp
  rw [pathAlias, pathAlias, toList_relationAlias, toList_relationAlias, extended,
    Text.substitute, Text.substitute, List.flatMap_append, List.length_append]
  simp

/-- The alias of a path is empty exactly when its text is. -/
theorem pathAlias_eq_empty_iff (names : List String) :
    pathAlias names = "" ↔ pathText names = "" := by
  constructor
  · intro empty
    have none := congrArg String.toList empty
    rw [pathAlias, toList_relationAlias, Text.substitute] at none
    refine String.toList_inj.mp (List.eq_nil_iff_forall_not_mem.mpr fun character member => ?_)
    have written := List.flatMap_eq_nil_iff.mp none character member
    split at written <;> cases written
  · intro empty
    rw [pathAlias, empty]
    rfl

/-- The place is one after the first, and the path up to it has empty names only, so that
its hop has the alias of the hop before it. -/
def Repeats (names : List String) (index : Nat) : Prop :=
  index ≠ 0 ∧ ∀ name ∈ names.take (index + 1), name = ""

/-- The plan has been made along the path so far: it has the alias of the path, if there
is one, and no longer alias. -/
structure SortPlan.Along (before : List String) (plan : SortPlan) : Prop where
  fresh : before = [] → plan.aliases = []
  joined : before ≠ [] → pathAlias before ∈ plan.aliases
  bounded : ∀ other ∈ plan.aliases, other.toList.length ≤ (pathAlias before).toList.length

namespace SortPlan.Along

variable {before : List String} {plan : SortPlan}

/-- The next alias has been joined already exactly when it is the empty one again. -/
theorem mem_aliases_iff (along : plan.Along before) (name : String) :
    pathAlias (before ++ [name]) ∈ plan.aliases ↔
      before ≠ [] ∧ ∀ other ∈ before ++ [name], other = "" := by
  rw [← pathText_eq_empty_iff, ← pathAlias_eq_empty_iff]
  constructor
  · intro member
    have within := along.bounded _ member
    have unbegun : pathText before = "" := by
      by_contra begun
      have longer := length_pathAlias_lt begun name
      omega
    refine ⟨?_, ?_⟩
    · rintro rfl
      rw [along.fresh rfl] at member
      cases member
    · rw [(pathAlias_eq_empty_iff before).mpr unbegun] at within
      exact String.toList_inj.mp (List.eq_nil_of_length_eq_zero (Nat.le_zero.mp within))
  · rintro ⟨some, empty⟩
    have all := (pathAlias_eq_empty_iff _).mp empty
    rw [pathText_append_singleton, extendPath_eq_empty_iff] at all
    rw [empty, ← (pathAlias_eq_empty_iff before).mpr all.1]
    exact along.joined some

/-- Joining the next alias goes one name further. -/
theorem join (along : plan.Along before) (name : String) (joins : List Sql.Join) :
    (plan.join (pathAlias (before ++ [name])) joins).Along (before ++ [name]) := by
  have longer : (pathAlias before).toList.length ≤
      (pathAlias (before ++ [name])).toList.length := by
    by_cases begun : pathText before = ""
    · rw [(pathAlias_eq_empty_iff before).mpr begun]
      exact Nat.zero_le _
    · exact (length_pathAlias_lt begun name).le
  have bounded (other : String) (member : other ∈ plan.aliases) :=
    (along.bounded other member).trans longer
  unfold SortPlan.join
  split
  · next contained =>
      exact ⟨fun impossible => by simp at impossible,
        fun _ => List.contains_iff_mem.mp contained, bounded⟩
  · refine ⟨fun impossible => by simp at impossible, fun _ => by simp, fun other member => ?_⟩
    rcases List.mem_append.mp member with before | last
    · exact bounded other before
    · rw [List.mem_singleton.mp last]

/-- The place behind the path so far repeats an alias exactly when the next alias has
been joined already. -/
theorem repeats_length_iff (along : plan.Along before) (name : String) (names : List String) :
    Repeats (before ++ name :: names) before.length ↔
      pathAlias (before ++ [name]) ∈ plan.aliases := by
  have upTo : (before ++ name :: names).take (before.length + 1) = before ++ [name] := by
    simp [List.take_append]
  rw [along.mem_aliases_iff, Repeats, upTo, ne_eq, List.length_eq_zero_iff]

end SortPlan.Along

/-- The places behind a name are counted from the path with the name. -/
theorem repeats_append_singleton_iff (before : List String) (name : String)
    (names : List String) (index : Nat) :
    Repeats (before ++ [name] ++ names) ((before ++ [name]).length + index) ↔
      Repeats (before ++ name :: names) (before.length + (index + 1)) := by
  have place : (before ++ [name]).length + index = before.length + (index + 1) := by
    simp only [List.length_append, List.length_singleton]
    omega
  rw [place, List.append_assoc]
  rfl

/-- Joins under an alias are added unless the alias has been joined. -/
theorem SortPlan.exists_joins_join (plan : SortPlan) (hopAlias : String)
    (joins : List Sql.Join) :
    ∃ added, (plan.join hopAlias joins).joins = plan.joins ++ added ∧
      (hopAlias ∈ plan.aliases → added = []) ∧ (hopAlias ∉ plan.aliases → added = joins) := by
  rw [SortPlan.join]
  by_cases again : hopAlias ∈ plan.aliases
  · rw [if_pos (List.contains_iff_mem.mpr again)]
    exact ⟨[], (List.append_nil _).symm, fun _ => rfl, fun new => absurd again new⟩
  · rw [if_neg (mt List.contains_iff_mem.mp again)]
    exact ⟨joins, rfl, fun old => absurd old again, fun _ => rfl⟩

/-! ## Constraints on rows -/

/-- What a join or a level asks of rows: that two columns are equal, in whatever order
they are written, or something else. -/
inductive JoinConstraint where
  | keys (columns : Sym2 Sql.Column)
  | check (condition : Condition)

/-- The constraint that a condition puts on rows. -/
def Sql.Condition.constraint : Condition → JoinConstraint
  | .compare .equal (.column left) (.column right) => .keys s(left, right)
  | condition => .check condition

namespace HopLevel

/-- The tables of a level with their aliases. -/
def sources (level : HopLevel) : List Sql.Source :=
  level.source :: (level.link.map Sql.Link.source).toList

/-- All that a level asks of its rows besides the next level: the equality of its link,
if it has one, and what it asks anyway. -/
def conditions (level : HopLevel) : List Condition :=
  (level.link.map fun link => columnsEqual link.left link.right).toList ++ level.standing

/-- Joins agree with a level. They keep the rows before them, they are of the same tables
under the same aliases, and they put the same constraints on them. So the conditions of
the joins are together as true of rows as those of the level, where equality does not
look at the order of its sides. -/
structure Agrees (level : HopLevel) (joins : List Sql.Join) : Prop where
  outer : ∀ join ∈ joins, join.kind = .left
  sources : joins.map Sql.Join.source = level.sources
  constraints : (joins.flatMap fun join => join.condition.conjuncts.map Condition.constraint).Perm
    (level.conditions.map Condition.constraint)
  truth : ∀ atom : Condition → Truth,
    (∀ first second, atom (columnsEqual first second) = atom (columnsEqual second first)) →
      Junction.all.combineAll (joins.map fun join => join.condition.truth atom) =
        Junction.all.combineAll (level.conditions.map fun condition => condition.truth atom)

end HopLevel

/-- A conjunction of conditions that are their own conjuncts asks for them. -/
theorem conjuncts_conjunction {conditions : List Condition}
    (atomic : ∀ condition ∈ conditions, condition.conjuncts = [condition]) :
    (conjunction conditions).conjuncts = conditions :=
  (Sql.Group.conjuncts_foldl_add [] conditions).trans (Sql.membersConjuncts_of_atomic atomic)

theorem truth_conjunction {conditions : List Condition}
    (atomic : ∀ condition ∈ conditions, condition.conjuncts = [condition])
    (atom : Condition → Truth) :
    (conjunction conditions).truth atom =
      Junction.all.combineAll (conditions.map fun condition => condition.truth atom) := by
  rw [Sql.truth_eq_conjuncts, conjuncts_conjunction atomic]

theorem conjuncts_of_mem_standing (keys : JoinKeys) (related : Model)
    (hopAlias parentName : String) :
    ∀ condition ∈ keys.standing related hopAlias parentName, condition.conjuncts = [condition] := by
  simp only [JoinKeys.standing, JoinKeys.classCondition?, Model.liveCondition?]
  cases keys.morph <;> cases related.softDelete <;>
    simp [Condition.conjuncts, JoinKeys.tie, columnsEqual]

section Agreement

variable {keys : JoinKeys} (related : Model) (hopAlias parentName : String)

/-- Without a pivot table there is one join, with the conditions of the level. -/
theorem JoinKeys.agrees_of_direct (direct : keys.pivot = none) :
    (keys.level related hopAlias parentName).Agrees
      (hopJoins keys related hopAlias parentName) := by
  have sources : keys.sources hopAlias = (⟨keys.table, some hopAlias⟩, none) := by
    rw [JoinKeys.sources, direct]
  have joins : hopJoins keys related hopAlias parentName =
      [⟨.left, ⟨keys.table, some hopAlias⟩,
        conjunction (keys.standing related hopAlias parentName)⟩] := by
    rw [hopJoins, direct]
    rfl
  have atomic := conjuncts_of_mem_standing keys related hopAlias parentName
  rw [joins]
  refine ⟨by simp, ?_, ?_, fun atom _ => ?_⟩
  · simp [HopLevel.sources, JoinKeys.level, sources]
  · simp [HopLevel.conditions, JoinKeys.level, sources, conjuncts_conjunction atomic]
  · simp only [HopLevel.conditions, JoinKeys.level, sources, List.map_cons, List.map_nil,
      Junction.combineAll_cons, Junction.combineAll_nil, Junction.combine_unit]
    exact truth_conjunction atomic atom

/-- With a pivot table there are two joins. The second one has the equality of the link,
with its sides in the other order. -/
theorem JoinKeys.agrees_of_pivot {pivot : PivotKeys} (through : keys.pivot = some pivot)
    (classless : keys.morph = none) :
    (keys.level related hopAlias parentName).Agrees
      (hopJoins keys related hopAlias parentName) := by
  let tie := keys.tie hopAlias parentName
  let live := (related.liveCondition? hopAlias).toList
  let link := columnsEqual ⟨pivotAlias hopAlias, pivot.relatedPivotKey⟩ ⟨hopAlias, pivot.relatedKey⟩
  let relatedTie :=
    columnsEqual ⟨hopAlias, pivot.relatedKey⟩ ⟨pivotAlias hopAlias, pivot.relatedPivotKey⟩
  have standing : keys.standing related hopAlias parentName = tie :: live := by
    rw [JoinKeys.standing, JoinKeys.classCondition?, classless]
    rfl
  have atomic : ∀ condition ∈ tie :: live, condition.conjuncts = [condition] :=
    standing ▸ conjuncts_of_mem_standing keys related hopAlias parentName
  obtain ⟨ofTie, ofLive⟩ := List.forall_mem_cons.mp atomic
  have first : ∀ condition ∈ [tie], condition.conjuncts = [condition] :=
    List.forall_mem_singleton.mpr ofTie
  have second : ∀ condition ∈ relatedTie :: live, condition.conjuncts = [condition] :=
    List.forall_mem_cons.mpr ⟨rfl, ofLive⟩
  have joins : hopJoins keys related hopAlias parentName =
      [⟨.left, ⟨keys.table, some (pivotAlias hopAlias)⟩, conjunction [tie]⟩,
        ⟨.left, ⟨pivot.table, some hopAlias⟩, conjunction (relatedTie :: live)⟩] := by
    rw [hopJoins, through]
  have sources : (keys.level related hopAlias parentName).sources =
      [⟨keys.table, some (pivotAlias hopAlias)⟩, ⟨pivot.table, some hopAlias⟩] := by
    simp [HopLevel.sources, JoinKeys.level, JoinKeys.sources, through]
  have conditions : (keys.level related hopAlias parentName).conditions = link :: tie :: live := by
    simp [HopLevel.conditions, JoinKeys.level, JoinKeys.sources, through, standing, link]
  rw [joins]
  refine ⟨by simp, by simp [sources], ?_, fun atom symmetric => ?_⟩
  · have swapped : relatedTie.constraint = link.constraint :=
      congrArg JoinConstraint.keys Sym2.eq_swap
    simp only [List.flatMap_cons, List.flatMap_nil, List.append_nil, conjuncts_conjunction first,
      conjuncts_conjunction second, conditions, List.map_cons, List.map_nil, swapped,
      List.singleton_append]
    exact .swap _ _ _
  · have swapped : relatedTie.truth atom = link.truth atom := symmetric _ _
    simp only [List.map_cons, List.map_nil, truth_conjunction first, truth_conjunction second,
      conditions, swapped, Junction.combineAll_cons, Junction.combineAll_nil,
      Junction.combine_unit]
    rw [← Junction.combine_assoc, Junction.combine_comm _ (tie.truth atom), Junction.combine_assoc]

end Agreement

/-- The joins of a hop agree with its level. -/
theorem HopLevel.Serves.agrees {level : HopLevel} {hop : Hop} {related : Model}
    {hopAlias parentName : String} (serves : level.Serves hop related hopAlias parentName) :
    ∃ keys, hop.relation.joinKeys? = some keys ∧
      level.Agrees (hopJoins keys related hopAlias parentName) := by
  have joins : hop.relation.joinKeys?.isSome = true := by
    rw [Relation.joinKeys?_isSome_iff]
    have made := serves.made
    cases relation : hop.relation with
    | morphTo typeColumn idColumn =>
        rw [relation] at made
        cases made
    | _ => rfl
  obtain ⟨keys, joined⟩ := Option.isSome_iff_exists.mp joins
  refine ⟨keys, joined, ?_⟩
  cases serves.made.symm.trans (Relation.level?_of_joinKeys joined)
  cases through : keys.pivot with
  | none => exact JoinKeys.agrees_of_direct related hopAlias parentName through
  | some pivot =>
      refine JoinKeys.agrees_of_pivot related hopAlias parentName through ?_
      cases relation : hop.relation <;> rw [relation] at joined <;> cases joined <;>
        first | rfl | cases through

/-! ## Joins along hops -/

/-- The joins of an order along hops come in groups, one for each hop: joins that agree with
the level of the hop, or none where the empty alias comes again and the hop is missed. -/
theorem HopLevels.exists_groups {context : Context} {before : List String} {hops : List Hop}
    {levels : List HopLevel} (follows : HopLevels context before hops levels) {plan : SortPlan}
    (along : plan.Along before) :
    ∃ groups : List (List Sql.Join),
      (plan.joinHops hops (context.rowName before) (pathText before)).1.joins =
        plan.joins ++ groups.flatten ∧
      groups.length = hops.length ∧
      ∀ (index : Nat) (level : HopLevel) (group : List Sql.Join),
        levels[index]? = some level → groups[index]? = some group →
          (Repeats (before ++ hops.map Hop.name) (before.length + index) → group = []) ∧
          (¬ Repeats (before ++ hops.map Hop.name) (before.length + index) →
            level.Agrees group) := by
  induction follows generalizing plan with
  | nil before =>
      refine ⟨[], (List.append_nil _).symm, rfl, ?_⟩
      intro index level group impossible
      cases impossible
  | @cons before hop related level hops levels reached serves rest ih =>
      obtain ⟨keys, joined, agrees⟩ := serves.agrees
      let hopAlias := pathAlias (before ++ [hop.name])
      let joins := hopJoins keys related hopAlias (context.rowName before)
      obtain ⟨groups, made, length, placed⟩ := ih (along.join hop.name joins)
      have step : plan.joinHops (hop :: hops) (context.rowName before) (pathText before) =
          (plan.join hopAlias joins).joinHops hops (context.rowName (before ++ [hop.name]))
            (pathText (before ++ [hop.name])) := by
        rw [SortPlan.joinHops, joined, reached, context.rowName_append_singleton, pathAlias,
          pathText_append_singleton]
        simp only [joins, hopAlias, pathAlias, pathText_append_singleton]
      obtain ⟨added, extended, none, all⟩ := plan.exists_joins_join hopAlias joins
      have repeats : Repeats (before ++ (hop :: hops).map Hop.name) before.length ↔
          hopAlias ∈ plan.aliases :=
        along.repeats_length_iff hop.name (hops.map Hop.name)
      refine ⟨added :: groups, ?_, congrArg (· + 1) length, ?_⟩
      · rw [step, made, extended, List.append_assoc]
        rfl
      · intro index level group found beside
        cases index with
        | zero =>
            cases found
            cases beside
            refine ⟨fun old => none (repeats.mp old), fun new => ?_⟩
            rw [all (mt repeats.mpr new)]
            exact agrees
        | succ index =>
            rw [List.map_cons, ← repeats_append_singleton_iff]
            exact placed index level group found beside

/-- What a condition and an order make of the same hops: the levels that the condition
puts around whatever is asked of the last row, and the joins that the order makes from
nothing, in groups, one for each hop. -/
structure HopParts (context : Context) (hops : List Hop) (levels : List HopLevel)
    (groups : List (List Sql.Join)) : Prop where
  asked : ∃ last, hops.getLast?.bind Hop.related = some last ∧
    ∀ inner : String → Model → Except Failure Sql.Group,
      relatedExists inner hops context.root.table "" =
        (inner (pathAlias (hops.map Hop.name)) last).map
          fun group => nested group.toCondition.unwrapped levels
  joined : (({} : SortPlan).joinHops hops context.root.table "").1.joins = groups.flatten
  levels_length : levels.length = hops.length
  groups_length : groups.length = hops.length

/-- The only order joins along the path of its field, and nothing else. -/
theorem joins_sortPlan_singleton {context : Context} {path : String} {hops : List Hop}
    (walked : context.resolve path = .ok hops) {key : SortKey} (listed : path ≠ pivotName)
    (along : (FieldPath.ofText key.field).relation = some path) :
    (sortPlan context [key]).2 = none ∧
      (sortPlan context [key]).1.joins =
        (({} : SortPlan).joinHops hops context.root.table "").1.joins := by
  have added : ∃ next, ({} : SortPlan).addKey context key = .ok next ∧
      next.joins = (({} : SortPlan).joinHops hops context.root.table "").1.joins := by
    simp only [SortPlan.addKey, along, if_neg listed, walked]
    refine ⟨_, rfl, ?_⟩
    cases (({} : SortPlan).joinHops hops context.root.table "").2 <;> rfl
  obtain ⟨next, made, joins⟩ := added
  have planned : sortPlan context [key] = (next, none) := by
    rw [sortPlan, SortPlan.addKeys, made]
    rfl
  rw [planned]
  exact ⟨rfl, joins⟩

/-- Along a path that resolves and whose relations all have a fixed table, every hop has
the joins that agree with its level, but for the hops that the plan misses: those after the
first that are reached by empty names only have none. The joins are those of an order by
any field on the path, if it is the only order. -/
theorem joins_agree_with_levels {context : Context} {path : String} {hops : List Hop}
    (walked : context.resolve path = .ok hops)
    (fixed : ∀ hop ∈ hops, hop.relation.isLoose = false) :
    ∃ levels groups, HopParts context hops levels groups ∧
      (∀ (index : Nat) (level : HopLevel) (group : List Sql.Join),
        levels[index]? = some level → groups[index]? = some group →
          (Repeats (relationNames path) index → group = []) ∧
          (¬ Repeats (relationNames path) index → level.Agrees group)) ∧
      ∀ key : SortKey, path ≠ pivotName → (FieldPath.ofText key.field).relation = some path →
        (sortPlan context [key]).2 = none ∧
          (sortPlan context [key]).1.joins = groups.flatten := by
  have joins := (Context.joins_iff_of_resolve walked).mpr fixed
  have names := Context.names_of_resolve walked
  cases hops with
  | nil => exact absurd rfl (Context.ne_nil_of_resolve walked)
  | cons hop rest =>
      obtain ⟨levels, last, follows, reached, asked⟩ :=
        relatedExists_eq_nested context rest [] joins
      have fresh : ({} : SortPlan).Along [] :=
        ⟨fun _ => rfl, fun impossible => absurd rfl impossible,
          fun _ impossible => absurd impossible List.not_mem_nil⟩
      obtain ⟨groups, made, length, placed⟩ := follows.exists_groups fresh
      rw [List.nil_append] at made placed
      simp only [names, List.length_nil, Nat.zero_add] at placed
      refine ⟨levels, groups, ⟨⟨last, reached, asked⟩, made, follows.length_eq, length⟩, placed, ?_⟩
      intro key listed along
      obtain ⟨accepted, joined⟩ := joins_sortPlan_singleton walked listed along
      exact ⟨accepted, joined.trans made⟩

/-- Along a path of three names, one of them of a many-to-many relation, every hop has
the joins that agree with its level. -/
theorem joins_agree_with_levels_notedTeams :
    ∃ hops levels groups, notedTeams.resolve "author.teams.notes" = .ok hops ∧
      HopParts notedTeams hops levels groups ∧ groups.length = 3 ∧
      ∀ (index : Nat) (level : HopLevel) (group : List Sql.Join),
        levels[index]? = some level → groups[index]? = some group → level.Agrees group := by
  have walks : ∃ hops, notedTeams.resolve "author.teams.notes" = .ok hops ∧ hops.length = 3 ∧
      hops.all (fun hop => !hop.relation.isLoose) = true :=
    ⟨_, rfl, rfl, rfl⟩
  obtain ⟨hops, walked, three, fixed⟩ := walks
  obtain ⟨levels, groups, parts, placed, _⟩ :=
    joins_agree_with_levels walked (by simpa using fixed)
  refine ⟨hops, levels, groups, walked, parts, parts.groups_length.trans three, ?_⟩
  intro index level group found beside
  refine (placed index level group found beside).2 fun repeats => ?_
  have names : relationNames "author.teams.notes" = ["author", "teams", "notes"] := by decide
  rw [names] at repeats
  exact absurd (repeats.2 "author" List.mem_cons_self) (by decide)

/-- Rows that reach others by relations without a name. -/
def namelessChain : Context :=
  { backend := .sqlite
    root := { table := "a", relations := [("", .belongsTo "b" "b_id" "id")] }
    catalog :=
      [("b", { table := "b", relations := [("", .belongsTo "c" "c_id" "id")] }),
        ("c", { table := "c" })] }

/-- Joins that agree with a level are not none. -/
theorem HopLevel.Agrees.ne_nil {level : HopLevel} {joins : List Sql.Join}
    (agrees : level.Agrees joins) : joins ≠ [] := by
  rintro rfl
  cases agrees.sources

/-- Along two relations without a name the plan misses the second hop: there are two
levels, but the joins of one hop only, so one of the levels has none that agree with it. -/
theorem not_joins_agree_namelessChain :
    ∃ hops, namelessChain.resolve "." = .ok hops ∧
      (∀ hop ∈ hops, hop.relation.isLoose = false) ∧
      ¬ ∃ levels groups, HopParts namelessChain hops levels groups ∧
        ∀ (index : Nat) (level : HopLevel) (group : List Sql.Join),
          levels[index]? = some level → groups[index]? = some group → level.Agrees group := by
  have walks : ∃ hops, namelessChain.resolve "." = .ok hops ∧ hops.length = 2 ∧
      hops.all (fun hop => !hop.relation.isLoose) = true ∧
      (({} : SortPlan).joinHops hops "a" "").1.joins.length = 1 :=
    ⟨_, rfl, rfl, rfl, rfl⟩
  obtain ⟨hops, walked, two, fixed, single⟩ := walks
  refine ⟨hops, walked, by simpa using fixed, ?_⟩
  rintro ⟨levels, groups, parts, agree⟩
  obtain ⟨outer, inner, rfl⟩ := List.length_eq_two.mp (parts.levels_length.trans two)
  obtain ⟨first, second, rfl⟩ := List.length_eq_two.mp (parts.groups_length.trans two)
  have some := List.length_pos_iff.mpr (agree 0 outer first rfl rfl).ne_nil
  have others := List.length_pos_iff.mpr (agree 1 inner second rfl rfl).ne_nil
  have joined : (({} : SortPlan).joinHops hops "a" "").1.joins = _ := parts.joined
  rw [joined, List.flatten_cons, List.flatten_cons, List.flatten_nil, List.append_nil,
    List.length_append] at single
  omega

end QueryGate
