import QueryGate.Sql.Render

/-!
# The text of a statement without its values

Erasing a condition puts one and the same value in place of every value that it binds,
and leaves everything else as it is. Groups grow alike before and after erasing, since
what they do with a condition depends on its junctions only.

The text of a statement and the number of its values are those of the erased one
(`text_render_of_erased_eq`): a value becomes a placeholder whatever it is.
-/

set_option autoImplicit false

namespace QueryGate.Sql

/-! ## Erasing -/

/-- The value that stands for every value. -/
def standIn : Value := .text ""

/-- The operand with every value erased. -/
def Operand.erased : Operand → Operand
  | .column target => .column target
  | .value _ => .value standIn
  | .lower operand => .lower operand.erased
  | .date form operand => .date form operand.erased
  | .binary operand => .binary operand.erased
  | .position operand _ => .position operand.erased standIn

mutual

/-- The condition with every value erased. -/
def Condition.erased : Condition → Condition
  | .compare comparison left right => .compare comparison left.erased right.erased
  | .like negated operand _ escaped => .like negated operand.erased "" escaped
  | .among negated operand values => .among negated operand.erased (values.map fun _ => standIn)
  | .isNull negated operand => .isNull negated operand.erased
  | .contains form array _ => .contains form array.erased standIn
  | .existsRow source link restriction => .existsRow source link restriction.erased
  | .junction kind members => .junction kind (membersErased members)

/-- The members of a junction with every value erased. -/
def membersErased : List Condition → List Condition
  | [] => []
  | member :: members => member.erased :: membersErased members

end

theorem membersErased_eq_map (members : List Condition) :
    membersErased members = members.map Condition.erased := by
  induction members with
  | nil => rfl
  | cons member members ih => rw [membersErased, ih, List.map_cons]

theorem erased_unwrapped (condition : Condition) :
    condition.unwrapped.erased = condition.erased.unwrapped := by
  cases condition with
  | junction kind members =>
      cases members with
      | nil => rfl
      | cons member members => cases members <;> rfl
  | _ => rfl

namespace Group

/-- The group with every value erased. -/
def erased (group : Group) : Group :=
  ⟨group.kind, group.members.map Condition.erased⟩

@[simp]
theorem erased_toCondition (group : Group) :
    group.toCondition.erased = group.erased.toCondition := by
  rw [toCondition, Condition.erased, membersErased_eq_map]
  rfl

@[simp]
theorem erased_one (condition : Condition) : (one condition).erased = one condition.erased := by
  rw [one, one, ← erased_unwrapped]
  rfl

@[simp]
theorem erased_add (group : Group) (condition : Condition) :
    (group.add condition).erased = group.erased.add condition.erased := by
  rw [add, add, ← erased_unwrapped, erased, List.map_append]
  rfl

@[simp]
theorem erased_addGroup (group member : Group) :
    (group.addGroup member).erased = group.erased.addGroup member.erased := by
  rw [addGroup, erased_add, erased_toCondition]
  rfl

theorem erased_foldl_add (group : Group) (conditions : List Condition) :
    (conditions.foldl add group).erased =
      (conditions.map Condition.erased).foldl add group.erased := by
  induction conditions generalizing group with
  | nil => rfl
  | cons condition conditions ih =>
      rw [List.foldl_cons, ih, erased_add, List.map_cons, List.foldl_cons]

theorem erased_foldl_addGroup (group : Group) (members : List Group) :
    (members.foldl addGroup group).erased = (members.map erased).foldl addGroup group.erased := by
  induction members generalizing group with
  | nil => rfl
  | cons member members ih =>
      rw [List.foldl_cons, ih, erased_addGroup, List.map_cons, List.foldl_cons]

theorem erased_conjoin (held added : Group) :
    (held.conjoin added).erased = held.erased.conjoin added.erased := by
  obtain ⟨kind, members⟩ := held
  obtain ⟨other, others⟩ := added
  cases kind with
  | all =>
      cases other with
      | all => exact congrArg (Group.mk .all) List.map_append
      | any => exact erased_addGroup _ _
  | any => exact (erased_addGroup _ _).trans (congrArg (addGroup · _) (erased_addGroup _ _))

end Group

namespace Select

/-- The statement with every value of its restriction erased. -/
def erased (select : Select) : Select :=
  { select with restriction := select.restriction.map Group.erased }

theorem erased_restrict (select : Select) (group : Group) :
    (select.restrict group).erased = select.erased.restrict group.erased := by
  unfold restrict erased
  cases select.restriction with
  | none => rfl
  | some held =>
      have same := Group.erased_conjoin held group
      exact congrArg (fun group => ({ select with restriction := some group } : Select)) same

theorem erased_restrict? (select : Select) (group : Option Group) :
    (select.restrict? group).erased = select.erased.restrict? (group.map Group.erased) := by
  cases group with
  | none => rfl
  | some group => exact erased_restrict select group

end Select

/-! ## Rendering -/

/-- The piece with its value erased. -/
def Piece.erased : Piece → Piece
  | .text written => .text written
  | .value _ => .value standIn

/-- The rendered condition with every value erased. -/
def Rendered.erased (rendered : Rendered) : Rendered :=
  ⟨rendered.binding, rendered.pieces.map Piece.erased⟩

/-- The text of pieces has placeholders where the values stand. -/
theorem Backend.piecesText_map_erased (backend : Backend) (position : Nat) (pieces : List Piece) :
    backend.piecesText position (pieces.map Piece.erased) = backend.piecesText position pieces := by
  induction pieces generalizing position with
  | nil => rfl
  | cons piece pieces ih =>
      cases piece with
      | text text => rw [List.map_cons, Piece.erased, piecesText, piecesText, ih]
      | value value => rw [List.map_cons, Piece.erased, piecesText, piecesText, ih]

/-- There are as many values after erasing. -/
theorem length_pieceValues_map_erased (pieces : List Piece) :
    (pieceValues (pieces.map Piece.erased)).length = (pieceValues pieces).length := by
  induction pieces with
  | nil => rfl
  | cons piece pieces ih =>
      cases piece with
      | text text => exact ih
      | value value => exact congrArg (· + 1) ih

theorem map_erased_joinPieces (separator : String) (parts : List (List Piece)) :
    (joinPieces separator parts).map Piece.erased =
      joinPieces separator (parts.map (List.map Piece.erased)) := by
  induction parts with
  | nil => rfl
  | cons pieces rest ih =>
      cases rest with
      | nil => rfl
      | cons next rest =>
          rw [joinPieces, List.map_append, List.map_cons, ih]
          · rfl
          · exact List.cons_ne_nil next rest

namespace Rendered

theorem erased_chain (kind : Junction) (left right : Rendered) :
    (chain kind left right).erased = chain kind left.erased right.erased := by
  have parenthesised (pieces : List Piece) :
      (parenthesised pieces).map Piece.erased = Sql.parenthesised (pieces.map Piece.erased) := by
    rw [Sql.parenthesised, List.map_append]
    rfl
  have asLeft : (left.asLeft kind).map Piece.erased = left.erased.asLeft kind := by
    unfold Rendered.asLeft
    split
    · exact (if_pos ‹_›).symm
    · exact (parenthesised _).trans (if_neg ‹_›).symm
  have asRight : right.asRight.map Piece.erased = right.erased.asRight := by
    unfold Rendered.asRight
    split
    · exact (if_pos ‹_›).symm
    · exact (parenthesised _).trans (if_neg ‹_›).symm
  rw [chain, erased, List.map_append, List.map_cons, asLeft, asRight]
  rfl

theorem erased_chainMembers (kind : Junction) (members : List Rendered) :
    (chainMembers kind members).erased = chainMembers kind (members.map erased) := by
  cases members with
  | nil => rfl
  | cons first others =>
      rw [chainMembers, List.map_cons, chainMembers]
      induction others generalizing first with
      | nil => rfl
      | cons other others ih =>
          rw [List.foldl_cons, ih, erased_chain, List.map_cons, List.foldl_cons]

end Rendered

namespace Backend

variable (backend : Backend)

theorem map_erased_operandPieces (operand : Operand) :
    (backend.operandPieces operand).map Piece.erased =
      (backend.operandPieces operand.erased).map Piece.erased := by
  induction operand with
  | column column => rfl
  | value value => rfl
  | date form operand ih =>
      cases form <;> simp only [Operand.erased, operandPieces, List.map_append, List.map_cons, ih]
  | position operand term ih =>
      simp only [Operand.erased, operandPieces, List.map_append, List.map_cons, ih, Piece.erased]
  | _ operand ih => simp only [Operand.erased, operandPieces, List.map_append, List.map_cons, ih]

theorem map_erased_containmentPieces (form : Containment) (array : List Piece) (element : Value) :
    (containmentPieces form array element).map Piece.erased =
      containmentPieces form (array.map Piece.erased) standIn := by
  cases form <;> simp only [containmentPieces, List.map_append, List.map_cons, List.map_nil,
    Piece.erased]

mutual

/-- A condition is rendered alike before and after erasing, but for the values. -/
theorem erased_renderCondition : ∀ (condition : Condition),
    (backend.renderCondition condition).erased =
      (backend.renderCondition condition.erased).erased
  | .compare comparison left right => by
      have leftPieces := backend.map_erased_operandPieces left
      have rightPieces := backend.map_erased_operandPieces right
      simp only [Condition.erased, renderCondition, Rendered.erased, List.map_append, List.map_cons,
        leftPieces, rightPieces]
  | .like negated operand pattern escaped => by
      have pieces := backend.map_erased_operandPieces operand
      simp only [Condition.erased, renderCondition, Rendered.erased, List.map_append, List.map_cons,
        pieces, Piece.erased]
  | .among negated operand values => by
      have pieces := backend.map_erased_operandPieces operand
      simp only [Condition.erased, renderCondition, Rendered.erased, List.map_append, List.map_cons,
        pieces, map_erased_joinPieces, List.map_map, Function.comp_def, Piece.erased, List.map_nil]
  | .isNull negated operand => by
      have pieces := backend.map_erased_operandPieces operand
      simp only [Condition.erased, renderCondition, Rendered.erased, List.map_append, pieces]
  | .contains form array element => by
      have pieces := backend.map_erased_operandPieces array
      simp only [Condition.erased, renderCondition, Rendered.erased, map_erased_containmentPieces,
        pieces]
  | .existsRow source link restriction => by
      have inner := congrArg Rendered.pieces (erased_renderCondition restriction)
      simp only [Rendered.erased] at inner
      simp only [Condition.erased, renderCondition, Rendered.erased, List.map_append, List.map_cons,
        inner]
  | .junction kind members => by
      rw [Condition.erased, renderCondition, renderCondition, Rendered.erased_chainMembers,
        Rendered.erased_chainMembers, erased_renderMembers members]

/-- The members of a junction are rendered alike before and after erasing, but for the
values. -/
theorem erased_renderMembers : ∀ (members : List Condition),
    (backend.renderMembers members).map Rendered.erased =
      (backend.renderMembers (membersErased members)).map Rendered.erased
  | [] => rfl
  | member :: members => by
      rw [membersErased, renderMembers, renderMembers, List.map_cons, List.map_cons,
        erased_renderCondition member, erased_renderMembers members]

end

/-- Restrictions that agree after erasing are rendered alike but for the values. -/
theorem map_erased_restrictionPieces (restriction : Option Group) :
    (backend.restrictionPieces restriction).map Piece.erased =
      (backend.restrictionPieces (restriction.map Group.erased)).map Piece.erased := by
  cases restriction with
  | none => rfl
  | some group =>
      have pieces := congrArg Rendered.pieces (backend.erased_renderCondition group.toCondition)
      rw [Group.erased_toCondition] at pieces
      exact congrArg (_ :: ·) pieces

theorem map_erased_selectPieces (select : Select) :
    (backend.selectPieces select).map Piece.erased =
      (backend.selectPieces select.erased).map Piece.erased := by
  simp only [selectPieces, List.map_append, List.map_cons, Select.erased]
  rw [map_erased_restrictionPieces]

/-- Statements that agree after erasing have one text, and equally many values. -/
theorem text_render_of_erased_eq {first second : Select} (same : first.erased = second.erased) :
    (backend.render first).text = (backend.render second).text ∧
      (backend.render first).values.length = (backend.render second).values.length := by
  have pieces : (backend.selectPieces first).map Piece.erased =
      (backend.selectPieces second).map Piece.erased := by
    rw [map_erased_selectPieces, same, ← map_erased_selectPieces]
  constructor
  · show backend.piecesText 1 (backend.selectPieces first) = _
    rw [← piecesText_map_erased, pieces, piecesText_map_erased]
    rfl
  · show (pieceValues (backend.selectPieces first)).length = _
    rw [← length_pieceValues_map_erased, pieces, length_pieceValues_map_erased]
    rfl

end Backend

end QueryGate.Sql
