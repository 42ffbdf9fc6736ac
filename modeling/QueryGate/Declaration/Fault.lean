import QueryGate.Declaration.Token.Basic

/-!
# Faults of declarations

The causes for which a model declaration is refused, and their wordings.
-/

set_option autoImplicit false

namespace QueryGate

/-- A use that an expression can make of an operand, but not of a cast. -/
inductive CastUse where
  | wait
  | method
  | field
  | question
  | index
  | call
deriving DecidableEq, Repr

/-- The wording of a use. -/
def CastUse.name : CastUse → String
  | wait => "\x60.await\x60"
  | method => "a method call"
  | field => "a field access"
  | question => "\x60?\x60"
  | index => "indexing"
  | call => "a function call"

/-- The wording of the groups with a kind of brackets. -/
def Bracket.groupName : Bracket → String
  | round => "parentheses"
  | square => "square brackets"
  | curly => "curly braces"

/-- Why a model declaration is refused. -/
inductive DeclarationFault where
  /-- The declared item is no structure. -/
  | notStructure
  /-- The fields of the structure have no names. -/
  | unnamedFields
  /-- No attribute names the table. -/
  | missingTable
  /-- An attribute for queries is not a list. -/
  | expectedList
  /-- The path of a member starts with a reserved word. -/
  | reservedWord (word : String)
  /-- The path of a member does not start with a word. -/
  | expectedWord (atEnd : Bool)
  /-- The path of a member has no proper word after a separator. -/
  | unfinishedPath (atEnd : Bool)
  /-- Something follows the path of a member where only the next member may. -/
  | expectedComma
  /-- A member of the model's list assigns no value. -/
  | expectedSetting
  /-- A setting is assigned something that begins no expression. -/
  | expectedExpression (atEnd : Bool)
  /-- A point in an expression has neither a name nor a position after it. -/
  | expectedField (atEnd : Bool)
  /-- An expression lacks a group. -/
  | expectedGroup (bracket : Bracket) (atEnd : Bool)
  /-- An expression lacks what a macro is applied to. -/
  | expectedDelimiter (atEnd : Bool)
  /-- A label in an expression names neither a loop nor a block. -/
  | expectedLabelled (atEnd : Bool)
  /-- A value that is broken off with begins with a label. -/
  | bareLabel
  /-- An expression uses a cast as only an operand can be used. -/
  | usedCast (use : CastUse)
  /-- An expression compares the result of a comparison. -/
  | chainedComparison
  /-- A setting is assigned an attribute. -/
  | nestedAttribute
  /-- A setting is assigned something else than a literal. -/
  | expectedLiteral
  /-- A setting is unknown, or is assigned a literal of another kind. -/
  | unknownSetting
  /-- The page size is zero. -/
  | limitNotPositive
  /-- The page size does not fit an unsigned 64-bit word. -/
  | limitTooLarge
  /-- The page size is negative. -/
  | limitInvalid
  /-- A member of a field's list is not a plain flag. -/
  | expectedFlag
  /-- A flag is unknown. -/
  | unknownFlag
  /-- A second field is marked as the time of deletion. -/
  | secondSoftDelete
deriving DecidableEq, Repr

namespace DeclarationFault

/-- What was expected, and whether the list had ended there. -/
def expectation (atEnd : Bool) (expected : String) : String :=
  if atEnd then "unexpected end of input, " ++ expected else expected

/-- The wording of a fault. -/
def message : DeclarationFault → String
  | notStructure => "QueryModel can only be derived for structs"
  | unnamedFields => "QueryModel only supports structs with named fields"
  | missingTable =>
      "missing table name, add \x60#[sea_orm(table_name = \"...\")]\x60 or " ++
        "\x60#[query(table = \"...\")]\x60"
  | expectedList => "expected \x60#[query(...)]\x60"
  | reservedWord word => "expected identifier, found keyword \x60" ++ word ++ "\x60"
  | expectedWord atEnd => expectation atEnd "expected identifier"
  | unfinishedPath atEnd => expectation atEnd "expected path segment after \x60::\x60"
  | expectedComma => "expected \x60,\x60"
  | expectedSetting => "expected \x60table = \"...\"\x60 or \x60limit = N\x60"
  | expectedExpression atEnd => expectation atEnd "expected an expression"
  | expectedField atEnd => expectation atEnd "expected identifier or integer"
  | expectedGroup bracket atEnd => expectation atEnd ("expected " ++ bracket.groupName)
  | expectedDelimiter atEnd => expectation atEnd "expected delimiter"
  | expectedLabelled atEnd => expectation atEnd "expected loop or block expression"
  | bareLabel => "parentheses required"
  | usedCast use => "casts cannot be followed by " ++ use.name
  | chainedComparison => "comparison operators cannot be chained"
  | nestedAttribute => "unexpected attribute inside of attribute"
  | expectedLiteral => "expected a literal"
  | unknownSetting =>
      "unknown \x60query\x60 attribute, expected \x60table = \"...\"\x60 or \x60limit = N\x60"
  | limitNotPositive => "\x60limit\x60 must be positive"
  | limitTooLarge => "number too large to fit in target type"
  | limitInvalid => "invalid digit found in string"
  | expectedFlag => "expected a flag such as \x60filterable\x60"
  | unknownFlag =>
      "unknown \x60query\x60 flag, expected one of: filterable, sortable, searchable, date, " ++
        "soft_delete, primary_key"
  | secondSoftDelete => "only one field can be marked \x60#[query(soft_delete)]\x60"

end DeclarationFault

end QueryGate
