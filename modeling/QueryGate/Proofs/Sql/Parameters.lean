import QueryGate.Proofs.Sql.Gathering
import QueryGate.Sql.Render

/-!
# Bound parameters

The values that a condition binds, in the order in which it is written, each with the column
that it stands beside: that of the other side of a comparison, or that of the operand which a
pattern, a list or an element is given for. The values of the rendered condition are those of
its parameters, in the same order (`pieceValues_renderCondition`).
-/

set_option autoImplicit false

namespace QueryGate.Sql

/-- A value that a condition binds, and the column that it stands beside, if there is one. -/
structure Parameter where
  column : Option Column
  value : Value

/-- The column that an operand is made of. -/
def Operand.column? : Operand → Option Column
  | .column place => some place
  | .value _ => none
  | .lower operand => operand.column?
  | .date _ operand => operand.column?
  | .binary operand => operand.column?
  | .position operand _ => operand.column?

/-- The parameters of an operand that stands beside a column or beside none. -/
def Operand.parameters (beside : Option Column) : Operand → List Parameter
  | .column _ => []
  | .value bound => [⟨beside, bound⟩]
  | .lower operand => operand.parameters beside
  | .date _ operand => operand.parameters beside
  | .binary operand => operand.parameters beside
  | .position operand term => operand.parameters beside ++ [⟨operand.column?, term⟩]

mutual

/-- The parameters of a condition. The existence of a row binds a constant for the row before
it binds what is asked of the row. -/
def Condition.parameters : Condition → List Parameter
  | .compare _ left right => left.parameters right.column? ++ right.parameters left.column?
  | .like _ operand pattern _ => operand.parameters none ++ [⟨operand.column?, .text pattern⟩]
  | .among _ operand values =>
      operand.parameters none ++ values.map fun value => ⟨operand.column?, value⟩
  | .isNull _ operand => operand.parameters none
  | .contains _ array element => array.parameters none ++ [⟨array.column?, element⟩]
  | .existsRow _ _ restriction => ⟨none, .int 1⟩ :: restriction.parameters
  | .junction _ members => membersParameters members

/-- The parameters of conditions, one after another. -/
def membersParameters : List Condition → List Parameter
  | [] => []
  | member :: members => member.parameters ++ membersParameters members

end

/-- The parameters of a group. -/
def Group.parameters (group : Group) : List Parameter :=
  group.gather Condition.parameters

/-- The parameters of a restriction, none where there is no restriction. -/
def restrictionParameters (restriction : Option Group) : List Parameter :=
  restriction.toList.flatMap Group.parameters

theorem membersParameters_eq_flatMap (members : List Condition) :
    membersParameters members = members.flatMap Condition.parameters := by
  induction members with
  | nil => rfl
  | cons member members ih => rw [membersParameters, ih, List.flatMap_cons]

theorem gathers_parameters : Gathers Condition.parameters := by
  intro kind members
  rw [Condition.parameters, membersParameters_eq_flatMap]

/-! ## Parameters of rendered conditions -/

theorem pieceValues_append (first second : List Piece) :
    pieceValues (first ++ second) = pieceValues first ++ pieceValues second := by
  induction first with
  | nil => rfl
  | cons piece first ih => cases piece <;> simp [pieceValues, ih]

theorem pieceValues_parenthesised (pieces : List Piece) :
    pieceValues (parenthesised pieces) = pieceValues pieces := by
  simp [parenthesised, pieceValues, pieceValues_append]

theorem pieceValues_joinPieces (separator : String) (lists : List (List Piece)) :
    pieceValues (joinPieces separator lists) = lists.flatMap pieceValues := by
  induction lists with
  | nil => rfl
  | cons first rest ih =>
      cases rest with
      | nil => exact (List.append_nil _).symm
      | cons next rest =>
          rw [joinPieces, pieceValues_append, pieceValues, ih, ← List.flatMap_cons]
          exact List.cons_ne_nil next rest

theorem pieceValues_chain (kind : Junction) (left right : Rendered) :
    pieceValues (left.chain kind right).pieces =
      pieceValues left.pieces ++ pieceValues right.pieces := by
  have asLeft : pieceValues (left.asLeft kind) = pieceValues left.pieces := by
    unfold Rendered.asLeft
    split
    · rfl
    · exact pieceValues_parenthesised left.pieces
  have asRight : pieceValues right.asRight = pieceValues right.pieces := by
    unfold Rendered.asRight
    split
    · rfl
    · exact pieceValues_parenthesised right.pieces
  rw [Rendered.chain, pieceValues_append, pieceValues, asLeft, asRight]

/-- A chain binds what its members bind. -/
theorem pieceValues_chainMembers (kind : Junction) (members : List Rendered) :
    pieceValues (chainMembers kind members).pieces =
      members.flatMap fun member => pieceValues member.pieces := by
  cases members with
  | nil => rfl
  | cons first others =>
      rw [chainMembers]
      induction others generalizing first with
      | nil => exact (List.append_nil _).symm
      | cons next others ih =>
          rw [List.foldl_cons, ih, List.flatMap_cons, pieceValues_chain, List.flatMap_cons,
            List.flatMap_cons, List.append_assoc]

namespace Backend

variable (backend : Backend)

theorem pieceValues_operandPieces (beside : Option Column) (operand : Operand) :
    pieceValues (backend.operandPieces operand) =
      (operand.parameters beside).map Parameter.value := by
  induction operand with
  | column place => rfl
  | value value => rfl
  | lower operand ih =>
      simp [operandPieces, pieceValues, pieceValues_append, ih, Operand.parameters]
  | date form operand ih =>
      cases form <;> simp [operandPieces, pieceValues, pieceValues_append, ih, Operand.parameters]
  | binary operand ih =>
      simp [operandPieces, pieceValues, pieceValues_append, ih, Operand.parameters]
  | position operand term ih =>
      simp [operandPieces, pieceValues, pieceValues_append, ih, Operand.parameters]

theorem pieceValues_containmentPieces (form : Containment) (array : List Piece)
    (element : Value) :
    pieceValues (containmentPieces form array element) = pieceValues array ++ [element] := by
  cases form <;> simp [containmentPieces, pieceValues, pieceValues_append]

theorem pieceValues_linkPieces (link : Option Link) :
    pieceValues (backend.linkPieces link) = [] := by
  cases link <;> rfl

mutual

/-- The values of a rendered condition are those of its parameters, in their order. -/
theorem pieceValues_renderCondition : ∀ condition : Condition,
    pieceValues (backend.renderCondition condition).pieces =
      condition.parameters.map Parameter.value
  | .compare comparison left right => by
      have first := backend.pieceValues_operandPieces right.column? left
      have second := backend.pieceValues_operandPieces left.column? right
      simp only [renderCondition, pieceValues_append, pieceValues, Condition.parameters,
        List.map_append, first, second]
  | .like negated operand pattern escaped => by
      cases escaped <;>
        simp [renderCondition, pieceValues_append, pieceValues, Condition.parameters,
          pieceValues_operandPieces backend none]
  | .among negated operand values => by
      simp [renderCondition, pieceValues_append, pieceValues, Condition.parameters,
        pieceValues_operandPieces backend none, pieceValues_joinPieces, List.flatMap_map,
        Function.comp_def]
  | .isNull negated operand => by
      simp [renderCondition, pieceValues_append, pieceValues, Condition.parameters,
        pieceValues_operandPieces backend none]
  | .contains form array element => by
      simp [renderCondition, pieceValues_containmentPieces, Condition.parameters,
        pieceValues_operandPieces backend none]
  | .existsRow source link restriction => by
      simp [renderCondition, pieceValues_append, pieceValues, pieceValues_linkPieces,
        Condition.parameters, pieceValues_renderCondition restriction]
  | .junction kind members => by
      rw [renderCondition, pieceValues_chainMembers, Condition.parameters]
      exact pieceValues_renderMembers members

/-- So it is for the members of a junction, one after another. -/
theorem pieceValues_renderMembers : ∀ members : List Condition,
    (backend.renderMembers members).flatMap (fun member => pieceValues member.pieces) =
      (membersParameters members).map Parameter.value
  | [] => rfl
  | member :: members => by
      rw [renderMembers, List.flatMap_cons, pieceValues_renderCondition member,
        pieceValues_renderMembers members, membersParameters, List.map_append]

end

/-- The values that a statement binds for its restriction are those of the parameters, in
their order. -/
theorem pieceValues_restrictionPieces (restriction : Option Group) :
    pieceValues (backend.restrictionPieces restriction) =
      (restrictionParameters restriction).map Parameter.value := by
  cases restriction with
  | none => rfl
  | some group =>
      rw [restrictionPieces, pieceValues, pieceValues_renderCondition,
        Group.read_toCondition gathers_parameters, restrictionParameters, Option.toList_some,
        List.flatMap_singleton, Group.parameters]

end Backend

end QueryGate.Sql
