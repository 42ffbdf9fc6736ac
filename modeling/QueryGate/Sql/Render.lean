import QueryGate.Sql.Backend

/-!
# Texts of statements

A statement is rendered to pieces: fixed text and bound values. The text of the
statement is the pieces joined, with a placeholder for each value, and the
values stand in the same order beside it. So the text cannot depend on a value,
only on the place where one stands.

A junction is written from the left: the first two members, then the next one,
and so on. An operand of `AND` or `OR` stands bare when it binds tighter than
both, or when it is the left operand and a chain of the same word; chains
elsewhere and the JSON forms that are spelt out are put in parentheses.
-/

set_option autoImplicit false

namespace QueryGate.Sql

/-- A piece of a rendered statement. -/
inductive Piece where
  | text (text : String)
  | value (value : Value)

/-- How tightly a rendered condition binds. -/
inductive Binding where
  | tight
  /-- A form that is spelt out and has no binding strength of its own. -/
  | spelt
  | chain (kind : Junction)
deriving DecidableEq, Repr

/-- A rendered condition. -/
structure Rendered where
  binding : Binding
  pieces : List Piece

/-- Lists of pieces with a text between each two. -/
def joinPieces (separator : String) : List (List Piece) → List Piece
  | [] => []
  | [pieces] => pieces
  | pieces :: rest => pieces ++ .text separator :: joinPieces separator rest

/-- Pieces in parentheses. -/
def parenthesised (pieces : List Piece) : List Piece :=
  .text "(" :: pieces ++ [.text ")"]

/-- The sign of a comparison. -/
def Comparison.sign : Comparison → String
  | less => "<"
  | atMost => "<="
  | greater => ">"
  | atLeast => ">="
  | equal => "="
  | unequal => "<>"

/-- The word between the members of a junction. -/
def Junction.word : Junction → String
  | all => "AND"
  | any => "OR"

/-- The junction of no members. -/
def Junction.emptyText : Junction → String
  | all => "TRUE"
  | any => "FALSE"

namespace Backend

/-- A column under its table. -/
def columnText (backend : Backend) (column : Column) : String :=
  backend.quoteName column.table ++ "." ++ backend.quoteName column.name

/-- A table with its alias. -/
def sourceText (backend : Backend) (source : Source) : String :=
  match source.called with
  | none => backend.quoteName source.table
  | some name => backend.quoteName source.table ++ " AS " ++ backend.quoteName name

/-- The pieces of a scalar expression. -/
def operandPieces (backend : Backend) : Operand → List Piece
  | .column column => [.text (backend.columnText column)]
  | .value value => [.value value]
  | .lower operand => .text "LOWER(" :: backend.operandPieces operand ++ [.text ")"]
  | .date .call operand => .text "DATE(" :: backend.operandPieces operand ++ [.text ")"]
  | .date .cast operand => .text "CAST(" :: backend.operandPieces operand ++ [.text " AS DATE)"]
  | .binary operand => .text "CAST(" :: backend.operandPieces operand ++ [.text " AS BINARY)"]
  | .position operand term =>
      .text "INSTR(" :: backend.operandPieces operand ++ [.text ", ", .value term, .text ")"]

/-- The pieces of a question for an element of a JSON array. -/
def containmentPieces (form : Containment) (array : List Piece) (element : Value) : List Piece :=
  match form with
  | .rows =>
      .text "EXISTS (SELECT 1 FROM json_each(" :: array ++
        [.text ") WHERE json_each.value = ", .value element, .text ")"]
  | .function => .text "JSON_CONTAINS(" :: array ++ [.text ", ", .value element, .text ")"]
  | .operator => array ++ [.text "::jsonb @> ", .value element, .text "::jsonb"]

/-- The pieces of an inner join by two equal columns. -/
def linkPieces (backend : Backend) : Option Link → List Piece
  | none => []
  | some link =>
      [.text (" INNER JOIN " ++ backend.sourceText link.source ++ " ON " ++
        backend.columnText link.left ++ " = " ++ backend.columnText link.right)]

end Backend

/-- A rendered condition as the left operand of a chain. -/
def Rendered.asLeft (kind : Junction) (rendered : Rendered) : List Piece :=
  if rendered.binding = .tight ∨ rendered.binding = .chain kind then rendered.pieces
  else parenthesised rendered.pieces

/-- A rendered condition as the right operand of a chain. -/
def Rendered.asRight (rendered : Rendered) : List Piece :=
  if rendered.binding = .tight then rendered.pieces else parenthesised rendered.pieces

/-- A chain with one more operand. -/
def Rendered.chain (kind : Junction) (left right : Rendered) : Rendered :=
  ⟨.chain kind, left.asLeft kind ++ .text (" " ++ kind.word ++ " ") :: right.asRight⟩

/-- The rendered members of a junction as one chain. -/
def chainMembers (kind : Junction) : List Rendered → Rendered
  | [] => ⟨.tight, [.text kind.emptyText]⟩
  | first :: others => others.foldl (Rendered.chain kind) first

namespace Backend

mutual

/-- A rendered condition. -/
def renderCondition (backend : Backend) : Condition → Rendered
  | .compare comparison left right =>
      ⟨.tight, backend.operandPieces left ++
        .text (" " ++ comparison.sign ++ " ") :: backend.operandPieces right⟩
  | .like negated operand pattern escaped =>
      ⟨.tight, backend.operandPieces operand ++
        [.text (if negated then " NOT LIKE " else " LIKE "), .value (.text pattern)] ++
        if escaped then [.text (" ESCAPE " ++ backend.backslashLiteral)] else []⟩
  | .among negated operand values =>
      ⟨.tight, backend.operandPieces operand ++
        .text (if negated then " NOT IN (" else " IN (") ::
        joinPieces ", " (values.map fun value => [.value value]) ++ [.text ")"]⟩
  | .isNull negated operand =>
      ⟨.tight, backend.operandPieces operand ++
        [.text (if negated then " IS NOT NULL" else " IS NULL")]⟩
  | .contains form array element =>
      ⟨.spelt, containmentPieces form (backend.operandPieces array) element⟩
  | .existsRow source link restriction =>
      ⟨.tight, .text "EXISTS(SELECT " :: .value (.int 1) ::
        .text (" FROM " ++ backend.sourceText source) :: backend.linkPieces link ++
        .text " WHERE " :: (backend.renderCondition restriction).pieces ++ [.text ")"]⟩
  | .junction kind members => chainMembers kind (backend.renderMembers members)

/-- The rendered members of a junction. -/
def renderMembers (backend : Backend) : List Condition → List Rendered
  | [] => []
  | member :: members => backend.renderCondition member :: backend.renderMembers members

end

/-- The pieces of an output. -/
def outputPieces (backend : Backend) : Output → List Piece
  | .column column => [.text (backend.columnText column)]
  | .value value => [.value value]
  | .allOf table => [.text (backend.quoteName table ++ ".*")]

/-- The pieces of a join, with the blank before it. -/
def joinTablePieces (backend : Backend) (join : Join) : List Piece :=
  .text (match join.kind with
    | .inner => " INNER JOIN "
    | .left => " LEFT JOIN ") ::
  .text (backend.sourceText join.source ++ " ON ") ::
  (backend.renderCondition join.condition).pieces

/-- The pieces of the restriction, with the blank before it. -/
def restrictionPieces (backend : Backend) : Option Group → List Piece
  | none => []
  | some group => .text " WHERE " :: (backend.renderCondition group.toCondition).pieces

/-- The pieces of the grouping, with the blank before it. -/
def groupingPieces (backend : Backend) (grouping : List Operand) : List Piece :=
  if grouping.isEmpty then []
  else .text " GROUP BY " :: joinPieces ", " (grouping.map backend.operandPieces)

/-- An order by one column. -/
def orderText (backend : Backend) (term : OrderTerm) : String :=
  backend.columnText term.column ++
    match term.direction with
    | .ascending => " ASC"
    | .descending => " DESC"

/-- The pieces of the orders, with the blank before them. -/
def orderPieces (backend : Backend) (orders : List OrderTerm) : List Piece :=
  if orders.isEmpty then []
  else [.text (" ORDER BY " ++ ", ".intercalate (orders.map backend.orderText))]

/-- The pieces of a limit or an offset, with the blank before it. -/
def boundPieces (word : String) : Option UInt64 → List Piece
  | none => []
  | some bound => [.text (" " ++ word ++ " "), .value (.int bound.toNat)]

/-- The pieces of a statement. -/
def selectPieces (backend : Backend) (select : Select) : List Piece :=
  .text "SELECT " :: joinPieces ", " (select.outputs.map backend.outputPieces) ++
    .text (" FROM " ++ backend.sourceText select.source) ::
    select.joins.flatMap backend.joinTablePieces ++
    backend.restrictionPieces select.restriction ++
    backend.groupingPieces select.grouping ++
    backend.orderPieces select.orders ++
    boundPieces "LIMIT" select.limit ++ boundPieces "OFFSET" select.offset

/-- The text of pieces, with placeholders numbered from `position` on. -/
def piecesText (backend : Backend) (position : Nat) : List Piece → String
  | [] => ""
  | .text text :: rest => text ++ backend.piecesText position rest
  | .value _ :: rest => backend.placeholder position ++ backend.piecesText (position + 1) rest

end Backend

/-- The values among pieces, in order. -/
def pieceValues : List Piece → List Value
  | [] => []
  | .text _ :: rest => pieceValues rest
  | .value value :: rest => value :: pieceValues rest

/-- The text of a statement with placeholders, and the values for them. -/
structure Statement where
  text : String
  values : List Value

/-- A rendered statement. -/
def Backend.render (backend : Backend) (select : Select) : Statement :=
  let pieces := backend.selectPieces select
  ⟨backend.piecesText 1 pieces, pieceValues pieces⟩

end QueryGate.Sql
