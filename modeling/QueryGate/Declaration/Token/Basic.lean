/-!
# Tokens of declarations

The attributes of a declaration are written as tokens: words, punctuation marks,
literals, and groups of tokens between brackets. Blanks and comments between
tokens are not regarded, so two texts with the same tokens say the same.
-/

set_option autoImplicit false

namespace QueryGate

/-- A literal of a declaration. A number is kept as it is written. -/
inductive Literal where
  | text (value : String)
  | number (written : String)
  /-- A literal of any other kind. -/
  | other
deriving DecidableEq, Repr

/-- The kinds of brackets. -/
inductive Bracket where
  | round
  | square
  | curly
deriving DecidableEq, Repr

/-- A token of a declaration. -/
inductive Token where
  /-- A word, with the mark `r#` if it is written with one. -/
  | word (text : String)
  /-- A punctuation mark. It is joint when another mark follows without a gap. -/
  | mark (character : Char) (joint : Bool)
  | literal (value : Literal)
  /-- What stands between two brackets of a kind. -/
  | group (bracket : Bracket) (content : List Token)
deriving Repr

/-- A token, or one of the brackets around a group. -/
inductive Lexeme where
  | token (value : Token)
  | opening (bracket : Bracket)
  | closing
deriving Repr

namespace Token

/-- Whether a token is a word. -/
def isWord (token : Token) (text : String) : Bool :=
  match token with
  | word spelled => spelled == text
  | _ => false

/-- The marks at the front of tokens that no gap divides. -/
def glued : List Token → List Char
  | mark character true :: rest => character :: glued rest
  | mark character false :: _ => [character]
  | _ => []

end Token

namespace Lexeme

/-- The tokens that end one level of groups, and those that end the levels
around it. -/
abbrev Levels := List Token × List (List Token)

/-- The levels with one more lexeme in front. A closing bracket begins a level,
and the opening one before it makes the level a group. -/
def onto (lexeme : Lexeme) (levels : Levels) : Levels :=
  match lexeme, levels with
  | token value, (tokens, outer) => (value :: tokens, outer)
  | closing, (tokens, outer) => ([], tokens :: outer)
  | opening bracket, (tokens, next :: outer) => (.group bracket tokens :: next, outer)
  | opening bracket, (tokens, []) => ([.group bracket tokens], [])

/-- The tokens that a list of lexemes makes. -/
def tokens (lexemes : List Lexeme) : List Token :=
  (lexemes.foldr onto ([], [])).1

end Lexeme

end QueryGate
