import QueryGate.Sql.Truth

/-!
# The conjuncts of conditions

A conjunction of conjunctions asks for the same things one after another, however its
members are nested, and a junction of one member asks for that member. The conjuncts of
a condition are what is left when both are taken apart. A disjunction of several members,
or of none, is one conjunct.

The rules by which restrictions grow are rules about conjuncts: giving up a sole member
changes none of them (`conjuncts_unwrapped`), and a statement restricted by a group has
its own conjuncts and then those of the group, whatever the kinds of the two
(`conjuncts_restrict`). A condition is as true as its conjuncts together
(`truth_eq_conjuncts`).
-/

set_option autoImplicit false

namespace QueryGate.Sql

mutual

/-- What a condition asks for, one thing after another. -/
def Condition.conjuncts : Condition → List Condition
  | .junction .all members => membersConjuncts members
  | .junction .any [member] => member.conjuncts
  | condition => [condition]

/-- What the members of a conjunction ask for. -/
def membersConjuncts : List Condition → List Condition
  | [] => []
  | member :: members => member.conjuncts ++ membersConjuncts members

end

theorem membersConjuncts_eq_flatMap (members : List Condition) :
    membersConjuncts members = members.flatMap Condition.conjuncts := by
  induction members with
  | nil => rfl
  | cons member members ih => rw [membersConjuncts, ih, List.flatMap_cons]

theorem membersConjuncts_append (first second : List Condition) :
    membersConjuncts (first ++ second) = membersConjuncts first ++ membersConjuncts second := by
  simp only [membersConjuncts_eq_flatMap, List.flatMap_append]

/-- Members that are their own conjuncts are all that they ask for. -/
theorem membersConjuncts_of_atomic {members : List Condition}
    (atomic : ∀ member ∈ members, member.conjuncts = [member]) :
    membersConjuncts members = members := by
  induction members with
  | nil => rfl
  | cons member members ih =>
      obtain ⟨here, later⟩ := List.forall_mem_cons.mp atomic
      rw [membersConjuncts, here, ih later]
      rfl

theorem conjuncts_junction_all (members : List Condition) :
    (Condition.junction .all members).conjuncts = membersConjuncts members := by
  rw [Condition.conjuncts]

/-- A junction of one member asks for that member. -/
theorem conjuncts_junction_singleton (kind : Junction) (member : Condition) :
    (Condition.junction kind [member]).conjuncts = member.conjuncts := by
  cases kind with
  | all => exact List.append_nil _
  | any => rw [Condition.conjuncts]

/-- Giving up a sole member changes no conjunct. -/
@[simp]
theorem conjuncts_unwrapped (condition : Condition) :
    condition.unwrapped.conjuncts = condition.conjuncts := by
  unfold Condition.unwrapped
  split
  · exact (conjuncts_junction_singleton _ _).symm
  · rfl

/-! ## Truth -/

section Truth

variable (atom : Condition → Truth)

mutual

/-- A condition is as true as its conjuncts together. -/
theorem truth_eq_conjuncts : ∀ (condition : Condition),
    condition.truth atom =
      Junction.all.combineAll (condition.conjuncts.map fun conjunct => conjunct.truth atom)
  | .junction .all members => by
      rw [conjuncts_junction_all, truth_junction, membersTruth_eq_conjuncts members]
  | .junction .any [member] => by
      rw [conjuncts_junction_singleton, ← truth_eq_conjuncts member, truth_junction,
        membersTruth_cons, membersTruth_nil, Junction.combine_unit]
  | .junction .any [] => (Junction.combine_unit .all _).symm
  | .junction .any (_ :: _ :: _) => (Junction.combine_unit .all _).symm
  | .compare _ _ _ => (Junction.combine_unit .all _).symm
  | .like _ _ _ _ => (Junction.combine_unit .all _).symm
  | .among _ _ _ => (Junction.combine_unit .all _).symm
  | .isNull _ _ => (Junction.combine_unit .all _).symm
  | .contains _ _ _ => (Junction.combine_unit .all _).symm
  | .existsRow _ _ _ => (Junction.combine_unit .all _).symm

/-- The members of a conjunction are as true as their conjuncts together. -/
theorem membersTruth_eq_conjuncts : ∀ (members : List Condition),
    membersTruth atom .all members =
      Junction.all.combineAll ((membersConjuncts members).map fun conjunct => conjunct.truth atom)
  | [] => membersTruth_nil atom .all
  | member :: members => by
      rw [membersTruth_cons, truth_eq_conjuncts member, membersTruth_eq_conjuncts members,
        membersConjuncts, List.map_append, Junction.combineAll_append]

end

end Truth

/-! ## Groups -/

namespace Group

/-- What a group asks for. -/
def conjuncts (group : Group) : List Condition :=
  group.toCondition.conjuncts

theorem conjuncts_mk_all (members : List Condition) :
    (Group.mk .all members).conjuncts = membersConjuncts members :=
  conjuncts_junction_all members

/-- A conjunction with one more condition asks for its conjuncts as well. -/
theorem conjuncts_add (members : List Condition) (condition : Condition) :
    ((Group.mk .all members).add condition).conjuncts =
      (Group.mk .all members).conjuncts ++ condition.conjuncts := by
  have last : membersConjuncts [condition.unwrapped] = condition.conjuncts := by
    rw [membersConjuncts, membersConjuncts, List.append_nil, conjuncts_unwrapped]
  rw [conjuncts_mk_all, ← last, ← membersConjuncts_append]
  exact conjuncts_mk_all _

/-- The conjuncts of conditions that are added one after another. -/
theorem conjuncts_foldl_add (members conditions : List Condition) :
    (conditions.foldl add (Group.mk .all members)).conjuncts =
      membersConjuncts members ++ membersConjuncts conditions := by
  induction conditions generalizing members with
  | nil => exact (conjuncts_mk_all members).trans (List.append_nil _).symm
  | cons condition conditions ih =>
      have here := conjuncts_add members condition
      rw [conjuncts_mk_all] at here
      rw [List.foldl_cons, membersConjuncts, ← List.append_assoc, ← here]
      exact ih (members ++ [condition.unwrapped])

/-- A restriction by two groups asks for what the first one does and then for what the
second one does. -/
theorem conjuncts_conjoin (held added : Group) :
    (held.conjoin added).conjuncts = held.conjuncts ++ added.conjuncts := by
  obtain ⟨heldKind, heldMembers⟩ := held
  obtain ⟨addedKind, addedMembers⟩ := added
  cases heldKind with
  | all =>
      cases addedKind with
      | all => exact membersConjuncts_append heldMembers addedMembers
      | any => exact conjuncts_add heldMembers _
  | any =>
      have alone : (Group.all.addGroup ⟨.any, heldMembers⟩).conjuncts =
          (Group.mk .any heldMembers).conjuncts :=
        conjuncts_add [] _
      rw [← alone]
      exact conjuncts_add _ _

end Group

/-- What a restriction asks for. -/
def restrictionConjuncts (restriction : Option Group) : List Condition :=
  restriction.toList.flatMap Group.conjuncts

theorem restrictionConjuncts_some (group : Group) :
    restrictionConjuncts (some group) = group.conjuncts :=
  List.append_nil _

/-- A restriction is as true as its conjuncts together. -/
theorem restrictionTruth_eq_conjuncts (atom : Condition → Truth) (restriction : Option Group) :
    restrictionTruth atom restriction =
      Junction.all.combineAll
        ((restrictionConjuncts restriction).map fun conjunct => conjunct.truth atom) := by
  cases restriction with
  | none => rfl
  | some group =>
      rw [restrictionConjuncts_some, Group.conjuncts, ← truth_eq_conjuncts, truth_toCondition,
        restrictionTruth]

/-- What a statement asks of its rows. -/
def Select.conjuncts (select : Select) : List Condition :=
  restrictionConjuncts select.restriction

/-- A statement restricted by a group asks for what it did, and then for what the group
does. -/
theorem conjuncts_restrict (select : Select) (group : Group) :
    (select.restrict group).conjuncts = select.conjuncts ++ group.conjuncts := by
  unfold Select.conjuncts Select.restrict
  cases select.restriction with
  | none => exact restrictionConjuncts_some group
  | some held =>
      simp only [restrictionConjuncts_some]
      exact Group.conjuncts_conjoin held group

theorem conjuncts_restrict? (select : Select) (group : Option Group) :
    (select.restrict? group).conjuncts = select.conjuncts ++ restrictionConjuncts group := by
  cases group with
  | none => exact (List.append_nil _).symm
  | some group =>
      rw [restrictionConjuncts_some]
      exact conjuncts_restrict select group

theorem conjuncts_restrictBy (select : Select) (condition : Condition) :
    (select.restrictBy condition).conjuncts = select.conjuncts ++ condition.conjuncts := by
  refine (conjuncts_restrict select ⟨.all, [condition]⟩).trans ?_
  exact congrArg (_ ++ ·) (conjuncts_junction_singleton .all condition)

end QueryGate.Sql
