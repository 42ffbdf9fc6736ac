import QueryGate.Declaration.Token.Quotation

/-!
# Tokens of a text

A text is read lexeme after lexeme, each as long as it can be. Gaps and comments
separate lexemes and make none, but a comment that documents something stands
for an attribute.
-/

set_option autoImplicit false

namespace QueryGate

namespace Lexeme

/-- The punctuation marks. -/
def marks : List Char := "~!@#$%^&*-=+|;:,<.>/?'".toList

/-- Whether a punctuation mark stands at the front. -/
def beginsWithMark (characters : List Char) : Bool :=
  (Extent.comment? characters).isNone && characters.head?.any marks.contains

/-- The attribute that a comment stands for, if it documents something. What it
says is not regarded. -/
def ofComment (characters : List Char) : List Lexeme :=
  if Extent.isOuterNote characters then [.token (.mark '#' false), .opening .square, .closing]
  else if Extent.isInnerNote characters then
    [.token (.mark '#' true), .token (.mark '!' false), .opening .square, .closing]
  else []

/-- The brackets. -/
def ofBracket? (character : Char) : Option Lexeme :=
  match character with
  | '(' => some (.opening .round)
  | '[' => some (.opening .square)
  | '\x7b' => some (.opening .curly)
  | _ => if [')', ']', '\x7d'].contains character then some .closing else none

/-- The token of a text that begins with no gap, comment or bracket, and its
extent. -/
def token? (first : Char) (rest : List Char) : Token × Nat :=
  let characters := first :: rest
  match Quotation.read? characters with
  | some (literal, extent) => (.literal literal, extent + Extent.kind (characters.drop extent))
  | none =>
      if first.isDigit then
        let extent := Extent.number characters
        (.literal (.number (String.ofList (characters.take extent))), extent)
      else if Extent.beginsWord first then
        let extent := Extent.word characters
        (.word (String.ofList (characters.take extent)), extent)
      else (.mark first (first == '\'' || beginsWithMark rest), 1)

/-- The lexemes of what stands at the front of a text, and its extent. -/
def next (first : Char) (rest : List Char) : List Lexeme × Nat :=
  if Extent.isGap first then ([], 1)
  else
    match Extent.comment? (first :: rest), ofBracket? first with
    | some extent, _ => (ofComment (first :: rest), extent)
    | none, some bracket => ([bracket], 1)
    | none, none => ([.token (token? first rest).1], (token? first rest).2)

/-- The lexemes of a text. Each takes at least one character. -/
def read : List Char → List Lexeme
  | [] => []
  | first :: rest => (next first rest).1 ++ read (rest.drop ((next first rest).2 - 1))
termination_by characters => characters.length
decreasing_by simp only [List.length_drop, List.length_cons]; omega

end Lexeme

namespace Token

/-- The tokens of a text. -/
def ofText (text : String) : List Token :=
  Lexeme.tokens (Lexeme.read text.toList)

/-- The word that a text spells, or the text itself if it is not one word. -/
def wordOf (text : String) : String :=
  match ofText text with
  | [word spelled] => spelled
  | _ => text

end Token

end QueryGate
