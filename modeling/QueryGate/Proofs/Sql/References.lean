import QueryGate.Proofs.Sql.Gathering

/-!
# What statements refer to

A condition refers to the columns that it looks at, each under the name of a table or
an alias, and to the tables that it brings in itself to ask whether a row exists. The
references of a condition are listed in the order in which they are written, with
those inside an existence condition at their place.

Building up groups and restrictions neither drops a reference nor adds one: the
references of what is built are those of its parts, one after another
(`references_addGroup`, `references_restrict`).
-/

set_option autoImplicit false

namespace QueryGate.Sql

/-- What a statement refers to by name. -/
inductive Reference where
  | column (column : Column)
  /-- A table that is brought in, with its alias. -/
  | source (source : Source)
deriving DecidableEq, Repr

/-- The references of an operand. -/
def Operand.references : Operand → List Reference
  | .column place => [.column place]
  | .value _ => []
  | .lower operand => operand.references
  | .date _ operand => operand.references
  | .binary operand => operand.references
  | .position operand _ => operand.references

/-- The references of a joined table. -/
def Link.references (link : Link) : List Reference :=
  [.source link.source, .column link.left, .column link.right]

mutual

/-- The references of a condition. -/
def Condition.references : Condition → List Reference
  | .compare _ left right => left.references ++ right.references
  | .like _ operand _ _ => operand.references
  | .among _ operand _ => operand.references
  | .isNull _ operand => operand.references
  | .contains _ array _ => array.references
  | .existsRow source link restriction =>
      .source source :: (link.toList.flatMap Link.references ++ restriction.references)
  | .junction _ members => membersReferences members

/-- The references of conditions, one after another. -/
def membersReferences : List Condition → List Reference
  | [] => []
  | member :: members => member.references ++ membersReferences members

end

/-- The references of a group. -/
def Group.references (group : Group) : List Reference :=
  membersReferences group.members

/-- The references of a restriction, none where there is no restriction. -/
def restrictionReferences (restriction : Option Group) : List Reference :=
  restriction.toList.flatMap Group.references

/-- The references of a join: the table it brings in and those of its condition. -/
def Join.references (join : Join) : List Reference :=
  .source join.source :: join.condition.references

theorem membersReferences_eq_flatMap (members : List Condition) :
    membersReferences members = members.flatMap Condition.references := by
  induction members with
  | nil => rfl
  | cons member members ih => rw [membersReferences, ih, List.flatMap_cons]

theorem membersReferences_append (first second : List Condition) :
    membersReferences (first ++ second) = membersReferences first ++ membersReferences second := by
  simp only [membersReferences_eq_flatMap, List.flatMap_append]

theorem gathers_references : Gathers Condition.references := by
  intro kind members
  rw [Condition.references, membersReferences_eq_flatMap]

theorem references_toCondition (group : Group) :
    group.toCondition.references = group.references := by
  rw [Group.toCondition, Condition.references, Group.references]

namespace Group

theorem references_eq_gather : references = gather Condition.references :=
  funext fun group => membersReferences_eq_flatMap group.members

theorem references_addGroup (group member : Group) :
    (group.addGroup member).references = group.references ++ member.references := by
  rw [references_eq_gather, gather_addGroup gathers_references]

theorem references_one (condition : Condition) :
    (one condition).references = condition.references := by
  rw [references_eq_gather, gather_one gathers_references]

theorem references_foldl_add (group : Group) (conditions : List Condition) :
    (conditions.foldl add group).references =
      group.references ++ conditions.flatMap Condition.references := by
  rw [references_eq_gather, gather_foldl_add gathers_references]

theorem references_conjoin (held added : Group) :
    (held.conjoin added).references = held.references ++ added.references := by
  obtain ⟨heldKind, heldMembers⟩ := held
  obtain ⟨addedKind, addedMembers⟩ := added
  cases heldKind with
  | all =>
      cases addedKind with
      | all => exact membersReferences_append heldMembers addedMembers
      | any => exact references_addGroup ⟨.all, heldMembers⟩ ⟨.any, addedMembers⟩
  | any =>
      refine
        (references_addGroup (all.addGroup ⟨.any, heldMembers⟩) ⟨addedKind, addedMembers⟩).trans ?_
      exact congrArg (· ++ _) (references_addGroup all ⟨.any, heldMembers⟩)

end Group

/-- Restricting a statement adds the references of the group at the end. -/
theorem references_restrict (select : Select) (group : Group) :
    restrictionReferences (select.restrict group).restriction =
      restrictionReferences select.restriction ++ group.references := by
  unfold Select.restrict restrictionReferences
  cases select.restriction with
  | none => exact List.append_nil _
  | some held =>
      simp only [Option.toList_some, List.flatMap_singleton]
      exact Group.references_conjoin held group

theorem references_restrict? (select : Select) (group : Option Group) :
    restrictionReferences (select.restrict? group).restriction =
      restrictionReferences select.restriction ++ restrictionReferences group := by
  cases group with
  | none => exact (List.append_nil _).symm
  | some group =>
      refine (references_restrict select group).trans (congrArg (_ ++ ·) ?_)
      exact (List.append_nil _).symm

end QueryGate.Sql
