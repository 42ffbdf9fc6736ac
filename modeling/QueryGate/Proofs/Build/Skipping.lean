import QueryGate.Proofs.Build.Legs

/-!
# Orders that are skipped

An order along a path whose last relation has no fixed table is skipped, and so is an order
by a field of the pivot table where there is none. A skipped order adds no term, so the
terms are those of the other orders.

That a path is skipped is found out only at its last hop. By then the hops before it have
been joined, and they stay joined: the legs of a skipped order are all hops of its path but
the last. With them the statement has more joins than it needs, and where no other order
joins anything its output is reduced to the columns of the root table for nothing. A
skipped order leaves no trace where its legs have been passed before, and so in particular
where its path is a single hop (`sortPlan_without_skipped`).
-/

set_option autoImplicit false

namespace QueryGate

variable {context : Context} {keys : List SortKey} {plan : SortPlan}

/-! ## The legs of a skipped order -/

/-- Hops that all join have a leg each. -/
theorem length_legsAlong_append {hops : List Hop} (joins : ∀ hop ∈ hops, hop.Joins)
    (before : List String) (rest : List Hop) :
    (legsAlong before (hops ++ rest)).length =
      hops.length + (legsAlong (before ++ hops.map Hop.name) rest).length := by
  induction hops generalizing before with
  | nil => simp
  | cons hop hops ih =>
      obtain ⟨⟨hasKeys, hasModel⟩, later⟩ := List.forall_mem_cons.mp joins
      obtain ⟨keys, joined⟩ := Option.isSome_iff_exists.mp hasKeys
      obtain ⟨related, led⟩ := Option.isSome_iff_exists.mp hasModel
      rw [List.cons_append, legsAlong, joined, led]
      dsimp only
      rw [List.length_cons, ih later, List.map_cons, List.append_assoc, List.length_cons]
      simp only [List.singleton_append]
      omega

/-- The legs of a skipped order are all hops that it goes along but the last. -/
theorem Context.length_legs_of_skips (planned : sortPlan context keys = (plan, none))
    {key : SortKey} (listed : key ∈ keys) (skipped : context.skips key = true) :
    (context.legs key).length = (context.orderHops key).length - 1 := by
  unfold Context.legs
  rcases Context.orderHops_cases planned listed with none | ⟨path, along, other, walked⟩
  · rw [none]
    rfl
  · cases last : (context.orderHops key).getLast? with
    | none =>
        rw [List.getLast?_eq_none_iff] at last
        rw [last]
        rfl
    | some hop =>
        have loose : hop.relation.isLoose = true := by
          simpa [Context.skips, along, other, last] using skipped
        have unjoined : hop.relation.joinKeys? = none := by
          rw [← Option.not_isSome_iff_eq_none, Relation.joinKeys?_isSome_iff, loose]
          simp
        have stops (before : List String) : legsAlong before [hop] = [] := by
          simp [legsAlong, unjoined]
        have split := List.dropLast_append_getLast? hop last
        have length := length_legsAlong_append (Catalog.joins_dropLast walked) [] [hop]
        rw [split, stops, List.length_nil, Nat.add_zero, List.length_dropLast] at length
        exact length

/-- An order has a term exactly when it is not skipped. -/
theorem Context.isSome_orderTerm? (key : SortKey) :
    (context.orderTerm? key).isSome = !context.skips key := by
  unfold Context.orderTerm?
  cases skipped : context.skips key with
  | true => rfl
  | false =>
      have looks : (context.orderTable? key).isSome = true := by
        unfold Context.skips at skipped
        unfold Context.orderTable?
        cases along : (FieldPath.ofText key.field).relation with
        | none => rfl
        | some path =>
            simp only [along] at skipped
            by_cases listed : path = pivotName
            · rw [if_pos listed] at skipped
              dsimp only
              rw [if_pos listed]
              cases through : context.pivot with
              | none =>
                  rw [through] at skipped
                  cases skipped
              | some pivot => rfl
            · dsimp only
              rw [if_neg listed]
              rfl
      simpa using looks

/-! ## Plans without the skipped orders -/

/-- Orders whose legs have been passed before can be left out of the legs. -/
theorem Leg.addAll_flatMap_filter (legs : SortKey → List Leg) (stays : SortKey → Bool)
    (keys : List SortKey) {passed : List Leg}
    (again : ∀ before key after, keys = before ++ key :: after → stays key = false →
      ∀ leg ∈ legs key,
        leg.hopAlias ∈ passed.map hopAlias ∨ leg.hopAlias ∈ (before.flatMap legs).map hopAlias) :
    addAll passed (keys.flatMap legs) = addAll passed ((keys.filter stays).flatMap legs) := by
  induction keys generalizing passed with
  | nil => rfl
  | cons first keys ih =>
      have later : addAll (addAll passed (legs first)) (keys.flatMap legs) =
          addAll (addAll passed (legs first)) ((keys.filter stays).flatMap legs) := by
        refine ih fun before key after split left leg member => ?_
        rw [mem_aliases_addAll, or_assoc, ← List.mem_append, ← List.map_append]
        exact again (first :: before) key after (by rw [split]; rfl) left leg member
      rw [List.flatMap_cons, addAll_append, later, List.filter_cons]
      split
      · rw [List.flatMap_cons, addAll_append]
      · next left =>
          have passes : addAll passed (legs first) = passed := by
            refine addAll_of_passed fun leg member => ?_
            have here := again [] first keys rfl (eq_false_of_ne_true left) leg member
            simpa using here
          rw [passes]

/-- The aliases of some legs are those of the legs that stay and of those that do not. -/
theorem Leg.mem_aliases_flatMap_filter (legs : SortKey → List Leg) (leaves : SortKey → Bool)
    (keys : List SortKey) (hopAlias : String) :
    hopAlias ∈ (keys.flatMap legs).map Leg.hopAlias ↔
      hopAlias ∈ ((keys.filter fun key => !leaves key).flatMap legs).map Leg.hopAlias ∨
        ∃ key ∈ keys, leaves key = true ∧ ∃ leg ∈ legs key, leg.hopAlias = hopAlias := by
  simp only [List.mem_map, List.mem_flatMap, List.mem_filter, Bool.not_eq_true']
  constructor
  · rintro ⟨leg, ⟨key, listed, member⟩, same⟩
    cases left : leaves key with
    | false => exact .inl ⟨leg, ⟨key, ⟨listed, left⟩, member⟩, same⟩
    | true => exact .inr ⟨key, listed, left, leg, member, same⟩
  · rintro (⟨leg, ⟨key, ⟨listed, _⟩, member⟩, same⟩ | ⟨key, listed, _, leg, member, same⟩)
    · exact ⟨leg, ⟨key, listed, member⟩, same⟩
    · exact ⟨leg, ⟨key, listed, member⟩, same⟩

/-- The terms of orders are those of the ones that are not skipped. -/
theorem Context.terms_filter (context : Context) (keys : List SortKey) :
    (keys.filter fun key => !context.skips key).filterMap context.orderTerm? =
      keys.filterMap context.orderTerm? := by
  rw [List.filterMap_filter]
  refine List.filterMap_congr fun key _ => ?_
  unfold Context.orderTerm?
  cases context.skips key <;> rfl

/-- How the plan of orders compares with the plan of those that are not skipped. -/
structure SortPlan.Outgrows (context : Context) (keys : List SortKey) (plan kept : SortPlan) :
    Prop where
  /-- Both have the same terms, one for each order that is not skipped. -/
  orders : plan.orders = kept.orders
  termed : plan.orders.length = (keys.filter fun key => !context.skips key).length
  /-- The legs of a skipped order are all hops of its path but the last. -/
  legs : ∀ key ∈ keys, context.skips key = true →
    (context.legs key).length = (context.orderHops key).length - 1
  /-- The aliases of these legs are joined beside those of the other orders. -/
  aliases : ∀ hopAlias, hopAlias ∈ plan.aliases ↔ hopAlias ∈ kept.aliases ∨
    ∃ key ∈ keys, context.skips key = true ∧ ∃ leg ∈ context.legs key, leg.hopAlias = hopAlias
  /-- So relations are joined if a skipped order goes along more than one hop. -/
  joins : plan.hasJoins = true ↔ kept.hasJoins = true ∨
    ∃ key ∈ keys, context.skips key = true ∧ 1 < (context.orderHops key).length
  /-- Skipped orders leave no trace where their legs have been passed before. -/
  traceless : (∀ before key after, keys = before ++ key :: after → context.skips key = true →
      ∀ leg ∈ context.legs key,
        leg.hopAlias ∈ (before.flatMap context.legs).map Leg.hopAlias) →
    plan.hasJoins = kept.hasJoins ∧
      ∀ root select, plan.apply root select = kept.apply root select

/-- The orders of a plan that are not skipped have a plan of their own, and the plan of
all of them has the same terms. It differs by the legs of the skipped orders only, that is
by the hops of their paths before the last one, and not at all where these have been
passed before. -/
theorem sortPlan_without_skipped (planned : sortPlan context keys = (plan, none)) :
    ∃ kept, sortPlan context (keys.filter fun key => !context.skips key) = (kept, none) ∧
      plan.Outgrows context keys kept := by
  obtain ⟨kept, replanned⟩ := exists_sortPlan_filter planned fun key => !context.skips key
  have made := sortPlan_made planned
  have remade := sortPlan_made replanned
  rw [context.terms_filter] at remade
  have legs (key : SortKey) (listed : key ∈ keys) (skipped : context.skips key = true) :=
    Context.length_legs_of_skips planned listed skipped
  have aliases (hopAlias : String) : hopAlias ∈ plan.aliases ↔ hopAlias ∈ kept.aliases ∨
      ∃ key ∈ keys, context.skips key = true ∧
        ∃ leg ∈ context.legs key, leg.hopAlias = hopAlias := by
    simp only [made.aliases, remade.aliases, Leg.mem_aliases_addAll, List.map_nil,
      List.not_mem_nil, false_or]
    exact Leg.mem_aliases_flatMap_filter context.legs context.skips keys hopAlias
  refine ⟨kept, replanned, made.orders.trans remade.orders.symm, ?_, legs, aliases, ?_, ?_⟩
  · rw [made.orders, List.length_filterMap_eq_countP, ← List.countP_eq_length_filter]
    simp only [Context.isSome_orderTerm?]
  · simp only [SortPlan.hasJoins_iff, aliases, exists_or]
    refine or_congr Iff.rfl ⟨?_, ?_⟩
    · rintro ⟨hopAlias, key, listed, skipped, leg, member, rfl⟩
      have length := legs key listed skipped
      have some := List.length_pos_of_mem member
      exact ⟨key, listed, skipped, by omega⟩
    · rintro ⟨key, listed, skipped, several⟩
      have length := legs key listed skipped
      have some : 0 < (context.legs key).length := by omega
      obtain ⟨leg, member⟩ := List.exists_mem_of_length_pos some
      exact ⟨leg.hopAlias, key, listed, skipped, leg, member, rfl⟩
  · intro again
    have same : Leg.addAll [] (keys.flatMap context.legs) =
        Leg.addAll [] ((keys.filter fun key => !context.skips key).flatMap context.legs) := by
      refine Leg.addAll_flatMap_filter context.legs _ keys ?_
      intro before key after split left leg member
      exact .inr (again before key after split (by simpa using left) leg member)
    rw [← same] at remade
    exact made.apply_eq remade

/-- Posts in teams, whose rows name the tables of their subjects. -/
def subjectTeams : Context :=
  { backend := .sqlite
    root := { table := "posts", relations := [("team", .belongsTo "teams" "team_id" "id")] }
    catalog :=
      [("teams", { table := "teams", relations := [("subject", .polymorphicTo "subject")] })] }

/-- An order by the subject of a team leaves no trace beside an order by its name. -/
theorem sortPlan_without_skipped_subjectTeams :
    ∃ plan kept,
      sortPlan subjectTeams [⟨"team.name", .ascending⟩, ⟨"team.subject.name", .ascending⟩] =
        (plan, none) ∧
      sortPlan subjectTeams [⟨"team.name", .ascending⟩] = (kept, none) ∧
      ∀ root select, plan.apply root select = kept.apply root select := by
  have plans : ∃ plan, sortPlan subjectTeams
      [⟨"team.name", .ascending⟩, ⟨"team.subject.name", .ascending⟩] = (plan, none) := ⟨_, rfl⟩
  obtain ⟨plan, planned⟩ := plans
  obtain ⟨kept, replanned, outgrows⟩ := sortPlan_without_skipped planned
  refine ⟨plan, kept, planned, replanned, (outgrows.traceless ?_).2⟩
  intro before key after split skipped leg member
  have second : before = [⟨"team.name", .ascending⟩] ∧
      key = ⟨"team.subject.name", .ascending⟩ := by
    rcases before with _ | ⟨first, _ | ⟨next, before⟩⟩
    · cases split
      exact absurd skipped (by decide)
    · cases split
      exact ⟨rfl, rfl⟩
    · simp at split
  obtain ⟨rfl, rfl⟩ := second
  have passes : ∀ leg ∈ subjectTeams.legs ⟨"team.subject.name", .ascending⟩, leg.hopAlias ∈
      (subjectTeams.legs ⟨"team.name", .ascending⟩).map Leg.hopAlias := by decide
  simpa using passes leg member

/-- An order by the subject of a team, with nothing beside it, is skipped, but it joins the
teams and reduces the output of every statement. -/
theorem not_sortPlan_without_skipped_subjectTeams :
    ∃ plan kept, sortPlan subjectTeams [⟨"team.subject.name", .ascending⟩] = (plan, none) ∧
      subjectTeams.skips ⟨"team.subject.name", .ascending⟩ = true ∧
      sortPlan subjectTeams [] = (kept, none) ∧
      plan.hasJoins = true ∧ kept.hasJoins = false ∧
      ∀ select, plan.apply "posts" select ≠ kept.apply "posts" select := by
  have plans : ∃ plan kept,
      sortPlan subjectTeams [⟨"team.subject.name", .ascending⟩] = (plan, none) ∧
      sortPlan subjectTeams [] = (kept, none) ∧
      plan.hasJoins = true ∧ kept.hasJoins = false ∧
      plan.joins.length = 1 ∧ kept.joins.length = 0 := ⟨_, _, rfl, rfl, rfl, rfl, rfl, rfl⟩
  obtain ⟨plan, kept, planned, replanned, joined, unjoined, one, none⟩ := plans
  refine ⟨plan, kept, planned, by decide, replanned, joined, unjoined, fun select same => ?_⟩
  have joins := congrArg (fun applied : Sql.Select => applied.joins.length) same
  simp only [SortPlan.apply, joined, unjoined, SortPlan.extend, if_true, Bool.false_eq_true,
    if_false, List.length_append, one, none] at joins
  omega

end QueryGate
