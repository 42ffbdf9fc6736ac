import QueryGate.Sql.Basic

/-!
# What groups gather

Much of what is asked of a condition is a list that is read off it from left to right: the
columns it looks at, the values it binds. Such a list is gathered when a junction has those
of its members, one after another (`Gathers`). Building up groups neither drops anything of
it nor adds anything, however members are unwrapped on the way: the list of what is built is
those of its parts (`gather_addGroup`, `gather_foldl_addGroup`).
-/

set_option autoImplicit false

namespace QueryGate.Sql

variable {α : Type} {read : Condition → List α}

/-- What is read off a junction is what is read off its members, one after another. -/
def Gathers (read : Condition → List α) : Prop :=
  ∀ kind members, read (.junction kind members) = members.flatMap read

/-- A sole member reads like its junction. -/
theorem Gathers.unwrapped (gathers : Gathers read) (condition : Condition) :
    read condition.unwrapped = read condition := by
  unfold Condition.unwrapped
  split
  · rw [gathers, List.flatMap_singleton]
  · rfl

namespace Group

/-- What is read off the members of a group, one after another. -/
def gather (read : Condition → List α) (group : Group) : List α :=
  group.members.flatMap read

theorem read_toCondition (gathers : Gathers read) (group : Group) :
    read group.toCondition = group.gather read :=
  gathers group.kind group.members

theorem gather_add (gathers : Gathers read) (group : Group) (condition : Condition) :
    (group.add condition).gather read = group.gather read ++ read condition := by
  rw [add, gather, List.flatMap_append, List.flatMap_singleton, gathers.unwrapped]
  rfl

theorem gather_addGroup (gathers : Gathers read) (group member : Group) :
    (group.addGroup member).gather read = group.gather read ++ member.gather read := by
  rw [addGroup, gather_add gathers, read_toCondition gathers]

theorem gather_one (gathers : Gathers read) (condition : Condition) :
    (one condition).gather read = read condition :=
  gather_add gathers all condition

theorem gather_foldl_add (gathers : Gathers read) (group : Group) (conditions : List Condition) :
    (conditions.foldl add group).gather read =
      group.gather read ++ conditions.flatMap read := by
  induction conditions generalizing group with
  | nil => exact (List.append_nil _).symm
  | cons condition conditions ih =>
      rw [List.foldl_cons, ih, gather_add gathers, List.flatMap_cons, List.append_assoc]

theorem gather_foldl_addGroup (gathers : Gathers read) (group : Group) (members : List Group) :
    (members.foldl addGroup group).gather read =
      group.gather read ++ members.flatMap (gather read) := by
  induction members generalizing group with
  | nil => exact (List.append_nil _).symm
  | cons member members ih =>
      rw [List.foldl_cons, ih, gather_addGroup gathers, List.flatMap_cons, List.append_assoc]

end Group

end QueryGate.Sql
