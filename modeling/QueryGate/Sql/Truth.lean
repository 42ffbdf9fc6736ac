import QueryGate.Sql.Basic

/-!
# The truth of conditions

A condition on a row holds, fails, or is neither when a value it looks at is
missing. Junctions combine these three values: a conjunction is as true as its
least true member and a disjunction as true as its most true one. Everything
that is no junction is an atom, and its truth is given from outside.

The rules by which groups and restrictions grow keep this meaning. Adding a
condition to a group combines the two truths (`truth_add`), giving up a sole
member instead of its junction changes nothing (`truth_unwrapped`), and a
restriction by two groups is as true as the less true one, whatever their kinds
(`truth_conjoin`).
-/

set_option autoImplicit false

namespace QueryGate.Sql

/-- The truth of a condition on a row. -/
inductive Truth where
  | fails
  | unknown
  | holds
deriving DecidableEq, Repr

namespace Truth

/-- The less true of two values. -/
def both : Truth → Truth → Truth
  | fails, _ => fails
  | _, fails => fails
  | unknown, _ => unknown
  | _, unknown => unknown
  | holds, holds => holds

/-- The more true of two values. -/
def either : Truth → Truth → Truth
  | holds, _ => holds
  | _, holds => holds
  | unknown, _ => unknown
  | _, unknown => unknown
  | fails, fails => fails

end Truth

namespace Junction

/-- The truth of a junction without members. -/
def unit : Junction → Truth
  | all => .holds
  | any => .fails

/-- The truth of two members together. -/
def combine : Junction → Truth → Truth → Truth
  | all => Truth.both
  | any => Truth.either

@[simp]
theorem combine_unit (kind : Junction) (truth : Truth) : kind.combine truth kind.unit = truth := by
  cases kind <;> cases truth <;> rfl

@[simp]
theorem unit_combine (kind : Junction) (truth : Truth) : kind.combine kind.unit truth = truth := by
  cases kind <;> cases truth <;> rfl

theorem combine_assoc (kind : Junction) (first second third : Truth) :
    kind.combine (kind.combine first second) third =
      kind.combine first (kind.combine second third) := by
  cases kind <;> cases first <;> cases second <;> cases third <;> rfl

theorem combine_comm (kind : Junction) (first second : Truth) :
    kind.combine first second = kind.combine second first := by
  cases kind <;> cases first <;> cases second <;> rfl

/-- The truth of any number of members together. -/
def combineAll (kind : Junction) (truths : List Truth) : Truth :=
  truths.foldr kind.combine kind.unit

@[simp]
theorem combineAll_nil (kind : Junction) : kind.combineAll [] = kind.unit := rfl

@[simp]
theorem combineAll_cons (kind : Junction) (truth : Truth) (truths : List Truth) :
    kind.combineAll (truth :: truths) = kind.combine truth (kind.combineAll truths) := rfl

theorem combineAll_append (kind : Junction) (first second : List Truth) :
    kind.combineAll (first ++ second) =
      kind.combine (kind.combineAll first) (kind.combineAll second) := by
  induction first with
  | nil => exact (kind.unit_combine _).symm
  | cons truth truths ih =>
      rw [List.cons_append, combineAll_cons, combineAll_cons, ih, combine_assoc]

/-- The order of the members does not count. -/
theorem combineAll_reverse (kind : Junction) (truths : List Truth) :
    kind.combineAll truths.reverse = kind.combineAll truths := by
  induction truths with
  | nil => rfl
  | cons truth truths ih =>
      rw [List.reverse_cons, combineAll_append, ih, combine_comm, combineAll_cons,
        combineAll_nil, combine_unit, combineAll_cons]

/-- A conjunction holds exactly when every member does. -/
theorem combineAll_all_eq_holds_iff (truths : List Truth) :
    all.combineAll truths = .holds ↔ ∀ truth ∈ truths, truth = .holds := by
  induction truths with
  | nil => exact ⟨fun _ _ impossible => absurd impossible List.not_mem_nil, fun _ => rfl⟩
  | cons truth truths ih =>
      have both : truth.both (all.combineAll truths) = .holds ↔
          truth = .holds ∧ all.combineAll truths = .holds := by
        cases truth <;> cases all.combineAll truths <;> decide
      rw [Junction.combineAll_cons]
      refine both.trans ?_
      rw [ih, List.forall_mem_cons]

end Junction

mutual

/-- The truth of a condition, where `atom` gives the truth of what is no
junction. -/
def Condition.truth (atom : Condition → Truth) : Condition → Truth
  | .junction kind members => membersTruth atom kind members
  | .compare comparison left right => atom (.compare comparison left right)
  | .like negated operand pattern escaped => atom (.like negated operand pattern escaped)
  | .among negated operand values => atom (.among negated operand values)
  | .isNull negated operand => atom (.isNull negated operand)
  | .contains form array element => atom (.contains form array element)
  | .existsRow source link restriction => atom (.existsRow source link restriction)

/-- The truth of the members of a junction together. -/
def membersTruth (atom : Condition → Truth) (kind : Junction) : List Condition → Truth
  | [] => kind.unit
  | member :: members => kind.combine (member.truth atom) (membersTruth atom kind members)

end

/-- The truth of a group. -/
def Group.truth (atom : Condition → Truth) (group : Group) : Truth :=
  membersTruth atom group.kind group.members

/-- The truth of a restriction; where there is none, every row is let through. -/
def restrictionTruth (atom : Condition → Truth) : Option Group → Truth
  | none => .holds
  | some group => group.truth atom

variable (atom : Condition → Truth)

@[simp]
theorem truth_junction (kind : Junction) (members : List Condition) :
    (Condition.junction kind members).truth atom = membersTruth atom kind members := by
  rw [Condition.truth]

@[simp]
theorem truth_toCondition (group : Group) : group.toCondition.truth atom = group.truth atom :=
  truth_junction atom group.kind group.members

@[simp]
theorem membersTruth_nil (kind : Junction) : membersTruth atom kind [] = kind.unit := by
  rw [membersTruth]

@[simp]
theorem membersTruth_cons (kind : Junction) (member : Condition) (members : List Condition) :
    membersTruth atom kind (member :: members) =
      kind.combine (member.truth atom) (membersTruth atom kind members) := by
  rw [membersTruth]

/-- The truth of the members is that of their truths together. -/
theorem membersTruth_eq_combineAll (kind : Junction) (members : List Condition) :
    membersTruth atom kind members =
      kind.combineAll (members.map fun member => member.truth atom) := by
  induction members with
  | nil => exact membersTruth_nil atom kind
  | cons member members ih =>
      rw [membersTruth_cons, ih, List.map_cons, Junction.combineAll_cons]

/-- The members of two lists are as true as the lists together. -/
theorem membersTruth_append (kind : Junction) (first second : List Condition) :
    membersTruth atom kind (first ++ second) =
      kind.combine (membersTruth atom kind first) (membersTruth atom kind second) := by
  rw [membersTruth_eq_combineAll, membersTruth_eq_combineAll, membersTruth_eq_combineAll,
    List.map_append, Junction.combineAll_append]

/-- A sole member is as true as its junction. -/
@[simp]
theorem truth_unwrapped (condition : Condition) :
    condition.unwrapped.truth atom = condition.truth atom := by
  unfold Condition.unwrapped
  split
  · simp
  · rfl

namespace Group

@[simp]
theorem truth_all : Group.all.truth atom = .holds := by
  simp [Group.truth, Group.all, Junction.unit]

@[simp]
theorem truth_any : Group.any.truth atom = .fails := by
  simp [Group.truth, Group.any, Junction.unit]

@[simp]
theorem truth_one (condition : Condition) :
    (Group.one condition).truth atom = condition.truth atom := by
  simp [Group.truth, Group.one]

/-- One more condition combines with the group. -/
theorem truth_add (group : Group) (condition : Condition) :
    (group.add condition).truth atom =
      group.kind.combine (group.truth atom) (condition.truth atom) := by
  simp [Group.truth, Group.add, membersTruth_append]

/-- One more group combines with the group as a single member. -/
theorem truth_addGroup (group member : Group) :
    (group.addGroup member).truth atom =
      group.kind.combine (group.truth atom) (member.truth atom) := by
  simp [Group.addGroup, truth_add]

/-- The conjunction of one group is as true as the group. -/
@[simp]
theorem truth_all_addGroup (group : Group) :
    (Group.all.addGroup group).truth atom = group.truth atom := by
  rw [truth_addGroup, truth_all]
  exact Junction.unit_combine .all _

/-- Conditions added one after another combine with the group. -/
theorem truth_foldl_add (group : Group) (conditions : List Condition) :
    (conditions.foldl add group).truth atom =
      group.kind.combine (group.truth atom)
        (group.kind.combineAll (conditions.map fun condition => condition.truth atom)) := by
  induction conditions generalizing group with
  | nil => exact (group.kind.combine_unit _).symm
  | cons condition conditions ih =>
      have kept : (group.add condition).kind = group.kind := rfl
      rw [List.foldl_cons, ih, kept, truth_add, Junction.combine_assoc]
      rfl

/-- Groups added one after another combine with the group. -/
theorem truth_foldl_addGroup (group : Group) (members : List Group) :
    (members.foldl addGroup group).truth atom =
      group.kind.combine (group.truth atom)
        (group.kind.combineAll (members.map fun member => member.truth atom)) := by
  have conditions := truth_foldl_add atom group (members.map toCondition)
  rw [List.foldl_map, List.map_map] at conditions
  refine conditions.trans ?_
  have truths : (fun condition : Condition => condition.truth atom) ∘ toCondition =
      fun member => member.truth atom :=
    funext fun member => truth_toCondition atom member
  rw [truths]

/-- A restriction by two groups is as true as the less true one. -/
theorem truth_conjoin (held added : Group) :
    (held.conjoin added).truth atom = (held.truth atom).both (added.truth atom) := by
  obtain ⟨heldKind, heldMembers⟩ := held
  obtain ⟨addedKind, addedMembers⟩ := added
  cases heldKind with
  | all =>
      cases addedKind with
      | all => exact membersTruth_append atom .all heldMembers addedMembers
      | any => exact truth_addGroup atom ⟨.all, heldMembers⟩ ⟨.any, addedMembers⟩
  | any =>
      exact (truth_addGroup atom (Group.all.addGroup ⟨.any, heldMembers⟩)
        ⟨addedKind, addedMembers⟩).trans
          (congrArg (Truth.both · _) (truth_all_addGroup atom ⟨.any, heldMembers⟩))

end Group

/-- Restricting a statement by a group makes its restriction as true as the less
true of both. -/
theorem truth_restrict (select : Select) (group : Group) :
    restrictionTruth atom (select.restrict group).restriction =
      (restrictionTruth atom select.restriction).both (group.truth atom) := by
  unfold Select.restrict
  cases select.restriction with
  | none => exact (Junction.unit_combine .all _).symm
  | some held => exact Group.truth_conjoin atom held group

/-- A statement restricted by a group, if there is one, is restricted by both. -/
theorem truth_restrict? (select : Select) (group : Option Group) :
    restrictionTruth atom (select.restrict? group).restriction =
      (restrictionTruth atom select.restriction).both (restrictionTruth atom group) := by
  cases group with
  | none => exact (Junction.combine_unit .all _).symm
  | some group => exact truth_restrict atom select group

end QueryGate.Sql
