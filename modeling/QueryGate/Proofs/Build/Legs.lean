import QueryGate.Proofs.Build.Parallel
import QueryGate.Proofs.Build.Progress

/-!
# The legs of orders

An order by a related column goes along the hops of its relation path. Every hop up to the
first without a fixed table is a leg of the order, and has joins of its own.

What the plan of a list of orders holds is said by their legs. A leg is passed over where a
leg before it, of the same order or of an earlier one, has its alias; every other leg adds
its joins. An order adds its term unless it is skipped, and the legs of a skipped order
count all the same (`sortPlan_made`).
-/

set_option autoImplicit false

namespace QueryGate

/-! ## Legs -/

/-- A hop that joins, behind the names of its path before it. -/
structure Leg where
  before : List String
  name : String
  keys : JoinKeys
  related : Model
deriving DecidableEq

namespace Leg

/-- The names of the path up to the leg. -/
def names (leg : Leg) : List String :=
  leg.before ++ [leg.name]

/-- The alias of the rows that the leg reaches. -/
def hopAlias (leg : Leg) : String :=
  pathAlias leg.names

/-- The joins of the leg, from the rows that the names before it reach. -/
def joins (context : Context) (leg : Leg) : List Sql.Join :=
  hopJoins leg.keys leg.related leg.hopAlias (context.rowName leg.before)

/-- Legs with one more, unless one of them has its alias. -/
def add (passed : List Leg) (leg : Leg) : List Leg :=
  if (passed.map hopAlias).contains leg.hopAlias then passed else passed ++ [leg]

/-- Legs with those of more legs that have a new alias. -/
def addAll (passed legs : List Leg) : List Leg :=
  legs.foldl add passed

end Leg

/-- The legs along hops, up to the first hop that does not join. -/
def legsAlong : (before : List String) → List Hop → List Leg
  | _, [] => []
  | before, hop :: rest =>
      match hop.relation.joinKeys?, hop.related with
      | some keys, some related =>
          ⟨before, hop.name, keys, related⟩ :: legsAlong (before ++ [hop.name]) rest
      | _, _ => []

namespace Context

/-- The hops that an order goes along: those of its relation path, if it has one that is
not the pivot table. -/
def orderHops (context : Context) (key : SortKey) : List Hop :=
  match (FieldPath.ofText key.field).relation with
  | none => []
  | some path => if path = pivotName then [] else (context.resolve path).toOption.getD []

/-- The legs of an order. -/
def legs (context : Context) (key : SortKey) : List Leg :=
  legsAlong [] (context.orderHops key)

/-- Whether an order is skipped: by a field of the pivot table where there is none, or
along a path whose last relation has no fixed table. -/
def skips (context : Context) (key : SortKey) : Bool :=
  match (FieldPath.ofText key.field).relation with
  | none => false
  | some path =>
      if path = pivotName then context.pivot.isNone
      else (context.orderHops key).getLast?.any fun hop => hop.relation.isLoose

/-- The name of the rows that an order looks at. -/
def orderTable? (context : Context) (key : SortKey) : Option String :=
  match (FieldPath.ofText key.field).relation with
  | none => some context.root.table
  | some path =>
      if path = pivotName then context.pivot.map PivotTable.table
      else some (pathAlias (relationNames path))

/-- The term of an order, unless it is skipped: the last segment of its field, of the rows
that it looks at, in its direction. -/
def orderTerm? (context : Context) (key : SortKey) : Option Sql.OrderTerm :=
  if context.skips key then none
  else (context.orderTable? key).map fun table =>
    ⟨⟨table, (FieldPath.ofText key.field).field⟩, key.direction⟩

end Context

/-! ## Passing over aliases -/

namespace Leg

variable {passed legs : List Leg}

@[simp] theorem addAll_nil (passed : List Leg) : addAll passed [] = passed :=
  rfl

theorem addAll_append (passed first second : List Leg) :
    addAll passed (first ++ second) = addAll (addAll passed first) second :=
  List.foldl_append

/-- The aliases that have been passed are those of all legs so far. -/
theorem mem_aliases_addAll (hopAlias : String) :
    hopAlias ∈ (addAll passed legs).map Leg.hopAlias ↔
      hopAlias ∈ passed.map Leg.hopAlias ∨ hopAlias ∈ legs.map Leg.hopAlias := by
  induction legs generalizing passed with
  | nil => simp [addAll]
  | cons leg legs ih =>
      rw [show addAll passed (leg :: legs) = addAll (add passed leg) legs from rfl, ih]
      have here : hopAlias ∈ (add passed leg).map Leg.hopAlias ↔
          hopAlias ∈ passed.map Leg.hopAlias ∨ hopAlias = leg.hopAlias := by
        rw [add]
        split
        · next again =>
            refine ⟨.inl, ?_⟩
            rintro (member | rfl)
            · exact member
            · exact List.contains_iff_mem.mp again
        · simp
      rw [here, List.map_cons, List.mem_cons, or_assoc]

/-- Legs whose aliases have all been passed add nothing. -/
theorem addAll_of_passed (all : ∀ leg ∈ legs, leg.hopAlias ∈ passed.map Leg.hopAlias) :
    addAll passed legs = passed := by
  induction legs with
  | nil => rfl
  | cons leg legs ih =>
      obtain ⟨here, later⟩ := List.forall_mem_cons.mp all
      have unchanged : add passed leg = passed := by
        rw [add, if_pos (List.contains_iff_mem.mpr here)]
      rw [show addAll passed (leg :: legs) = addAll (add passed leg) legs from rfl, unchanged]
      exact ih later

end Leg

/-! ## Hops of a path -/

/-- A hop that is followed by others joins. -/
theorem Catalog.joins_of_continued {catalog : Catalog} {root parent : Model}
    {path name next : String} {names : List String} {hop : Hop} {rest : List Hop}
    (here : catalog.hop root parent name = .ok hop)
    (there : catalog.walk root path hop.related (next :: names) = .ok rest) : hop.Joins := by
  have led : hop.related.isSome = true := by
    cases reached : hop.related with
    | some _ => rfl
    | none =>
        rw [reached] at there
        cases there
  refine ⟨?_, led⟩
  rw [Relation.joinKeys?_isSome, ← isSome_related_of_hop here]
  exact led

/-- All hops of a walk but the last one join. -/
theorem Catalog.joins_dropLast {catalog : Catalog} {root : Model} {path : String}
    {names : List String} {model : Option Model} {hops : List Hop}
    (walked : catalog.walk root path model names = .ok hops) :
    ∀ hop ∈ hops.dropLast, hop.Joins := by
  induction names generalizing model hops with
  | nil =>
      rw [walk] at walked
      cases walked
      simp
  | cons name names ih =>
      cases model with
      | none =>
          rw [walk] at walked
          cases walked
      | some parent =>
          obtain ⟨hop, rest, here, there, rfl⟩ := walk_cons_eq_ok_iff.mp walked
          cases names with
          | nil =>
              rw [walk] at there
              cases there
              simp
          | cons following names =>
              have later := ih there
              cases rest with
              | nil => simp
              | cons next rest =>
                  rw [List.dropLast_cons_cons, List.forall_mem_cons]
                  exact ⟨joins_of_continued here there, later⟩

/-- On a path that resolves, all hops join unless the last one has no fixed table. -/
theorem Context.joins_iff_last {context : Context} {path : String} {hops : List Hop}
    (walked : context.resolve path = .ok hops) :
    (∀ hop ∈ hops, hop.Joins) ↔ (hops.getLast?.any fun hop => hop.relation.isLoose) = false := by
  rw [Context.joins_iff_of_resolve walked]
  have fixed (hop : Hop) (member : hop ∈ hops.dropLast) : hop.relation.isLoose = false :=
    (Relation.joinKeys?_isSome_iff _).mp (Catalog.joins_dropLast walked hop member).1
  cases last : hops.getLast? with
  | none =>
      rw [List.getLast?_eq_none_iff] at last
      simp [last]
  | some hop =>
      have split := List.dropLast_append_getLast? hop last
      rw [Option.any_some, ← split]
      simp only [List.mem_append, List.mem_singleton, or_imp, forall_and, forall_eq]
      exact ⟨And.right, fun loose => ⟨fixed, loose⟩⟩

/-! ## Plans made of legs -/

namespace SortPlan

variable {context : Context} {passed : List Leg} {terms : List Sql.OrderTerm}
  {plan next : SortPlan}

/-- The plan has the aliases and the joins of legs, and terms. -/
structure Made (context : Context) (passed : List Leg) (terms : List Sql.OrderTerm)
    (plan : SortPlan) : Prop where
  aliases : plan.aliases = passed.map Leg.hopAlias
  joins : plan.joins = passed.flatMap (Leg.joins context)
  orders : plan.orders = terms

theorem Made.note (made : plan.Made context passed terms) (event : Event) :
    (plan.note event).Made context passed terms :=
  ⟨made.aliases, made.joins, made.orders⟩

theorem Made.order (made : plan.Made context passed terms) (table field : String)
    (direction : Sql.Direction) :
    (plan.order table field direction).Made context passed
      (terms ++ [⟨⟨table, field⟩, direction⟩]) :=
  ⟨made.aliases, made.joins, congrArg (· ++ _) made.orders⟩

/-- Joining the next hop goes over one leg. -/
theorem Made.join (made : plan.Made context passed terms) (leg : Leg) :
    (plan.join leg.hopAlias (leg.joins context)).Made context (Leg.add passed leg) terms := by
  rw [SortPlan.join, Leg.add, made.aliases]
  split
  · exact made
  · constructor
    · simp
    · simp [made.joins]
    · exact made.orders

/-- Joining along hops goes over their legs. -/
theorem Made.joinHops (hops : List Hop) (before : List String)
    (made : plan.Made context passed terms) :
    (plan.joinHops hops (context.rowName before) (pathText before)).1.Made context
      (Leg.addAll passed (legsAlong before hops)) terms := by
  induction hops generalizing before passed plan with
  | nil => exact made
  | cons hop rest ih =>
      rw [SortPlan.joinHops, legsAlong]
      cases hop.relation.joinKeys? with
      | none => exact made.note _
      | some keys =>
          cases hop.related with
          | none => exact made.note _
          | some related =>
              have further := ih (before ++ [hop.name])
                (made.join ⟨before, hop.name, keys, related⟩)
              rw [context.rowName_append_singleton] at further
              simp only [Leg.joins, Leg.hopAlias, Leg.names, pathAlias,
                pathText_append_singleton] at further
              exact further

/-- Joining comes to the end of hops exactly when all of them join. -/
theorem joinHops_reaches (context : Context) (hops : List Hop) (before : List String)
    (plan : SortPlan) :
    ((∀ hop ∈ hops, hop.Joins) →
      (plan.joinHops hops (context.rowName before) (pathText before)).2 =
        some (context.rowName (before ++ hops.map Hop.name))) ∧
    ((¬ ∀ hop ∈ hops, hop.Joins) →
      (plan.joinHops hops (context.rowName before) (pathText before)).2 = none) := by
  induction hops generalizing before plan with
  | nil => simp [SortPlan.joinHops]
  | cons hop rest ih =>
      rw [SortPlan.joinHops, List.forall_mem_cons, Hop.Joins]
      cases hop.relation.joinKeys? with
      | none => simp
      | some keys =>
          cases hop.related with
          | none => simp
          | some related =>
              have further := ih (before ++ [hop.name])
              rw [context.rowName_append_singleton, List.append_assoc] at further
              simp only [pathAlias, pathText_append_singleton] at further
              simpa using further _

/-- What one more key makes of a plan. -/
inductive Adds (context : Context) (plan : SortPlan) (key : SortKey) : SortPlan → Prop where
  | root (own : (FieldPath.ofText key.field).relation = none) :
      Adds context plan key
        (plan.order context.root.table (FieldPath.ofText key.field).field key.direction)
  | pivot {pivot : PivotTable} (listed : (FieldPath.ofText key.field).relation = some pivotName)
      (through : context.pivot = some pivot) :
      Adds context plan key
        (plan.order pivot.table (FieldPath.ofText key.field).field key.direction)
  | pivotless (listed : (FieldPath.ofText key.field).relation = some pivotName)
      (without : context.pivot = none) :
      Adds context plan key (plan.note (.skippedPivotSort key.field))
  | related {path : String} {hops : List Hop}
      (along : (FieldPath.ofText key.field).relation = some path) (other : path ≠ pivotName)
      (walked : context.resolve path = .ok hops) (joins : ∀ hop ∈ hops, hop.Joins) :
      Adds context plan key
        ((plan.joinHops hops context.root.table "").1.order (pathAlias (relationNames path))
          (FieldPath.ofText key.field).field key.direction)
  | loose {path : String} {hops : List Hop}
      (along : (FieldPath.ofText key.field).relation = some path) (other : path ≠ pivotName)
      (walked : context.resolve path = .ok hops) (loose : ¬ ∀ hop ∈ hops, hop.Joins) :
      Adds context plan key (plan.joinHops hops context.root.table "").1

theorem adds_of_addKey {key : SortKey} (added : plan.addKey context key = .ok next) :
    plan.Adds context key next := by
  unfold SortPlan.addKey at added
  cases along : (FieldPath.ofText key.field).relation with
  | none =>
      simp only [along] at added
      cases added
      exact .root along
  | some path =>
      simp only [along] at added
      by_cases listed : path = pivotName
      · rw [if_pos listed] at added
        subst listed
        cases through : context.pivot with
        | none =>
            rw [through] at added
            cases added
            exact .pivotless along through
        | some pivot =>
            rw [through] at added
            cases added
            exact .pivot along through
      · rw [if_neg listed] at added
        obtain ⟨hops, walked, same⟩ := (Success.bind_eq_ok_iff _ _ _).mp added
        cases same
        obtain ⟨reaches, stops⟩ := joinHops_reaches context hops [] plan
        by_cases joins : ∀ hop ∈ hops, hop.Joins
        · have reached := reaches joins
          rw [List.nil_append, Context.names_of_resolve walked,
            context.rowName_relationNames] at reached
          rw [show (plan.joinHops hops context.root.table "").2 = _ from reached]
          exact .related along listed walked joins
        · rw [show (plan.joinHops hops context.root.table "").2 = _ from stops joins]
          exact .loose along listed walked joins

/-- One more order goes over its legs, and adds its term. -/
theorem Made.addKey (made : plan.Made context passed terms) {key : SortKey}
    (added : plan.addKey context key = .ok next) :
    next.Made context (Leg.addAll passed (context.legs key))
      (terms ++ (context.orderTerm? key).toList) := by
  have step := adds_of_addKey added
  unfold Context.legs Context.orderTerm? Context.skips Context.orderTable? Context.orderHops
  cases step with
  | root own => simpa [own, legsAlong] using made.order _ _ _
  | pivot listed through => simpa [listed, through, legsAlong] using made.order _ _ _
  | pivotless listed without => simpa [listed, without, legsAlong] using made.note _
  | @related path hops along other walked joins =>
      have last := (Context.joins_iff_last walked).mp joins
      have joined : (plan.joinHops hops context.root.table "").1.Made context
        (Leg.addAll passed (legsAlong [] hops)) terms := made.joinHops hops []
      simpa [along, other, walked, last, Except.toOption] using joined.order _ _ _
  | @loose path hops along other walked loose =>
      have last := eq_true_of_ne_false (mt (Context.joins_iff_last walked).mpr loose)
      have joined : (plan.joinHops hops context.root.table "").1.Made context
        (Leg.addAll passed (legsAlong [] hops)) terms := made.joinHops hops []
      simpa [along, other, walked, last, Except.toOption] using joined

/-- Orders go over their legs one after another, and each adds its term. -/
theorem Made.addKeys (keys : List SortKey) (made : plan.Made context passed terms)
    (added : addKeys context plan keys = (next, none)) :
    next.Made context (Leg.addAll passed (keys.flatMap context.legs))
      (terms ++ keys.filterMap context.orderTerm?) := by
  induction keys generalizing passed terms plan with
  | nil =>
      cases added
      simpa [Leg.addAll] using made
  | cons key keys ih =>
      rw [SortPlan.addKeys] at added
      cases step : plan.addKey context key with
      | error failure =>
          rw [step] at added
          cases added
      | ok between =>
          rw [step] at added
          have rest := ih (made.addKey step) added
          rw [← Leg.addAll_append, List.append_assoc] at rest
          have term : (key :: keys).filterMap context.orderTerm? =
              (context.orderTerm? key).toList ++ keys.filterMap context.orderTerm? := by
            cases found : context.orderTerm? key <;> simp [found]
          rw [List.flatMap_cons, term]
          exact rest

/-- Plans that are made alike add the same to every statement. -/
theorem Made.apply_eq {kept : SortPlan} (made : plan.Made context passed terms)
    (remade : kept.Made context passed terms) :
    plan.hasJoins = kept.hasJoins ∧
      ∀ root select, plan.apply root select = kept.apply root select := by
  have joined : plan.hasJoins = kept.hasJoins := by
    rw [hasJoins, hasJoins, made.aliases, remade.aliases]
  refine ⟨joined, fun root select => ?_⟩
  rw [apply, apply, extend, extend, joined, made.joins, remade.joins, made.orders, remade.orders]

theorem hasJoins_iff (plan : SortPlan) :
    plan.hasJoins = true ↔ ∃ hopAlias, hopAlias ∈ plan.aliases := by
  rw [hasJoins, Bool.not_eq_true', List.isEmpty_eq_false_iff_exists_mem]

end SortPlan

variable {context : Context} {keys : List SortKey} {plan : SortPlan}

/-- Each of the orders of a plan can be planned by itself. -/
theorem exists_addKey_of_planned (planned : sortPlan context keys = (plan, none))
    {key : SortKey} (listed : key ∈ keys) :
    ∃ next, ({} : SortPlan).addKey context key = .ok next := by
  have unfailing : (SortPlan.addKeys context {} keys).2 = none := congrArg Prod.snd planned
  rw [SortPlan.failure_addKeys, List.findSome?_eq_none_iff] at unfailing
  have here := unfailing key listed
  cases added : ({} : SortPlan).addKey context key with
  | error failure =>
      rw [added] at here
      cases here
  | ok next => exact ⟨next, rfl⟩

/-- An order of a plan goes along no hops, or along those of its path, which resolves. -/
theorem Context.orderHops_cases (planned : sortPlan context keys = (plan, none))
    {key : SortKey} (listed : key ∈ keys) :
    context.orderHops key = [] ∨
      ∃ path, (FieldPath.ofText key.field).relation = some path ∧ path ≠ pivotName ∧
        context.resolve path = .ok (context.orderHops key) := by
  obtain ⟨next, added⟩ := exists_addKey_of_planned planned listed
  unfold Context.orderHops
  cases SortPlan.adds_of_addKey added with
  | root own =>
      rw [own]
      exact .inl rfl
  | pivot through _ =>
      rw [through]
      exact .inl rfl
  | pivotless through _ =>
      rw [through]
      exact .inl rfl
  | related along other walked _ =>
      refine .inr ⟨_, along, other, ?_⟩
      simp only [along, if_neg other, walked]
      rfl
  | loose along other walked _ =>
      refine .inr ⟨_, along, other, ?_⟩
      simp only [along, if_neg other, walked]
      rfl

/-- Some of the orders of a plan can be planned without the others. -/
theorem exists_sortPlan_filter (planned : sortPlan context keys = (plan, none))
    (stays : SortKey → Bool) :
    ∃ kept, sortPlan context (keys.filter stays) = (kept, none) := by
  refine ⟨(sortPlan context (keys.filter stays)).1, Prod.ext rfl ?_⟩
  rw [sortPlan, SortPlan.failure_addKeys, List.findSome?_eq_none_iff]
  intro key member
  obtain ⟨next, added⟩ := exists_addKey_of_planned planned (List.mem_of_mem_filter member)
  rw [added]
  rfl

/-- The plan of a list of orders holds the joins of their legs, each alias at the first leg
that has it, and the terms of the orders that are not skipped, in their order. -/
theorem sortPlan_made (planned : sortPlan context keys = (plan, none)) :
    plan.Made context (Leg.addAll [] (keys.flatMap context.legs))
      (keys.filterMap context.orderTerm?) := by
  have empty : SortPlan.Made context [] [] {} := ⟨rfl, rfl, rfl⟩
  exact empty.addKeys keys planned

end QueryGate
