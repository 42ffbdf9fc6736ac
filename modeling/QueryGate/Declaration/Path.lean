import QueryGate.Declaration.Fault
import QueryGate.Declaration.Token.Basic

/-!
# Paths of attributes

A path is words with `::` between them, and maybe in front. A reserved word
cannot stand in a path, except for the few that name a place to start from;
`unsafe` is a whole path, and ends it. A path is read at the front of tokens,
as far as it goes, and its extent tells how far that is.
-/

set_option autoImplicit false

namespace QueryGate

/-- The path of an attribute. -/
structure AttributePath where
  /-- Whether the path begins with a separator. -/
  rooted : Bool
  words : List String
deriving DecidableEq, Repr

namespace AttributePath

/-- The reserved words. -/
def reserved : List String :=
  ["_", "abstract", "as", "async", "await", "become", "box", "break", "const", "continue", "crate",
    "do", "dyn", "else", "enum", "extern", "false", "final", "fn", "for", "if", "impl", "in", "let",
    "loop", "macro", "match", "mod", "move", "mut", "override", "priv", "pub", "ref", "return",
    "Self", "self", "static", "struct", "super", "trait", "true", "try", "type", "typeof",
    "unsafe", "unsized", "use", "virtual", "where", "while", "yield"]

/-- The reserved words that a path may hold. -/
def places : List String := ["crate", "Self", "self", "super"]

/-- Whether a word may stand in a path. -/
def mayHold (word : String) : Bool :=
  places.contains word || !reserved.contains word

/-- The name that the path is: one word, and no separator. -/
def name? : AttributePath → Option String
  | ⟨false, [word]⟩ => some word
  | _ => none

/-- Whether the path is a name. -/
def isName (path : AttributePath) (name : String) : Bool :=
  path.name? == some name

/-- How many tokens the path takes: its words, and the two marks of each
separator. -/
def extent (path : AttributePath) : Nat :=
  3 * path.words.length - (if path.rooted then 0 else 2)

/-- Reads the words after the first one, each behind a separator. -/
def readLater : List Token → Except DeclarationFault (List String)
  | .mark ':' true :: .mark ':' _ :: .word word :: rest =>
      if mayHold word then return word :: (← readLater rest)
      else .error (.unfinishedPath false)
  | .mark ':' true :: .mark ':' _ :: rest => .error (.unfinishedPath rest.isEmpty)
  | _ => .ok []

/-- Reads the words of a path. -/
def readWords : List Token → Except DeclarationFault (List String)
  | .word word :: rest =>
      if mayHold word then return word :: (← readLater rest)
      else .error (.reservedWord word)
  | tokens => .error (.expectedWord tokens.isEmpty)

/-- Reads the path at the front of tokens. -/
def read : List Token → Except DeclarationFault AttributePath
  | .word "unsafe" :: _ => .ok ⟨false, ["unsafe"]⟩
  | .mark ':' true :: .mark ':' _ :: rest => return ⟨true, ← readWords rest⟩
  | tokens => return ⟨false, ← readWords tokens⟩

end AttributePath

end QueryGate
