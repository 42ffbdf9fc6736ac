import QueryGate.Declaration.Expression.Basic

/-!
# Members of attributes

A member is a path that stands alone, is assigned a value, or is followed by a
group. The members of a list are separated by commas, and a comma may end the
list. A list is read as a whole, member after member, and the first fault spoils
it. Readers take the front of the tokens, and tell by an extent how much they
took.
-/

set_option autoImplicit false

namespace QueryGate

/-- What a setting is assigned. -/
inductive Assigned where
  | literal (value : Literal)
  /-- An expression that is no literal. -/
  | expression
deriving DecidableEq, Repr

namespace Assigned

/-- What the tokens of a whole expression assign. -/
def ofExpression : List Token → Assigned
  | [.literal value] => .literal value
  | [.word "true"] => .literal .other
  | [.word "false"] => .literal .other
  | _ => .expression

/-- Reads what a setting is assigned, and its extent. A minus sign belongs to a
number only at the end of a list; before a comma it makes an expression. -/
def read : List Token → Except DeclarationFault (Assigned × Nat)
  | [.mark '-' _, .literal (.number written)] => .ok (.literal (.number ("-" ++ written)), 2)
  | .mark '#' _ :: .group .square _ :: _ => .error .nestedAttribute
  | tokens => do
      let extent ← Expression.extent .operand {} tokens
      return (ofExpression (tokens.take extent), extent)

end Assigned

/-- A member of an attribute's list, or an attribute itself. -/
inductive Member where
  | flag (path : AttributePath)
  | setting (path : AttributePath) (value : Assigned)
  | list (path : AttributePath) (content : List Token)
deriving Repr

namespace Member

/-- The path of a member. -/
def path : Member → AttributePath
  | flag path => path
  | setting path _ => path
  | list path _ => path

/-- Whether a member is the flag of a name. -/
def isFlag (member : Member) (name : String) : Bool :=
  match member with
  | flag path => path.isName name
  | _ => false

/-- The text that a member assigns to a name. -/
def textOf? (name : String) : Member → Option String
  | setting path (.literal (.text value)) => if path.isName name then some value else none
  | _ => none

/-! ## Reading -/

/-- Reads the member at the front of tokens, and its extent. -/
def read (tokens : List Token) : Except DeclarationFault (Member × Nat) := do
  let path ← AttributePath.read tokens
  match tokens.drop path.extent with
  | .group _ content :: _ => return (list path content, path.extent + 1)
  | .mark '=' _ :: value =>
      let (assigned, extent) ← Assigned.read value
      return (setting path assigned, path.extent + 1 + extent)
  | _ => return (flag path, path.extent)

/-- Reads a member that stands alone. -/
def readAlone (tokens : List Token) : Except DeclarationFault Member := do
  let (member, extent) ← read tokens
  if extent < tokens.length then throw .expectedComma
  return member

/-- Reads a list of members. Each takes at least one token. -/
def readList : List Token → Except DeclarationFault (List Member)
  | [] => .ok []
  | first :: others => do
      let (member, extent) ← read (first :: others)
      match others.drop (extent - 1) with
      | [] => return [member]
      | .mark ',' _ :: _ => return member :: (← readList (others.drop extent))
      | _ => throw .expectedComma
termination_by tokens => tokens.length
decreasing_by simp only [List.length_drop, List.length_cons]; omega

/-- The members of the list that a member has to be. -/
def members : Member → Except DeclarationFault (List Member)
  | list _ content => readList content
  | _ => .error .expectedList

end Member

end QueryGate
