import QueryGate.Text.Segments
import QueryGate.Text.Word

/-!
# Whitelists

A resource names what a request may refer to. A pattern is a name, `*` for
everything, or a name with gaps: every `.*` in it stands for a dot and a word.
A gap fills exactly one segment, so `team.*` admits `team.name` and neither
`team.owner.name` nor `myteam.name`.

A pattern with gaps is matched as the list of its pieces. After a piece there
has to be a dot and at least one word character; how many of the word
characters belong to the gap is left open, and the rest of the pieces decide.
-/

set_option autoImplicit false

namespace QueryGate

/-- The pattern that admits everything. -/
def wildcard : String := "*"

/-- The pieces of a pattern between its gaps `.*`. -/
def patternPieces : List Char → List (List Char)
  | [] => [[]]
  | '.' :: '*' :: rest => [] :: patternPieces rest
  | character :: rest =>
      match patternPieces rest with
      | [] => [[character]]
      | piece :: pieces => (character :: piece) :: pieces

/-- What may remain of a text after a word of at least one character at its
front. -/
def afterWord : List Char → List (List Char)
  | [] => []
  | character :: rest =>
      if Text.isWord character then rest :: afterWord rest else []

/-- Whether a text is the pieces with a dot and a word in every gap. -/
def fillsGaps : List (List Char) → List Char → Bool
  | [], _ => false
  | [piece], text => text == piece
  | piece :: pieces, text =>
      match Text.afterStart piece text with
      | some ('.' :: rest) => (afterWord rest).any fun remainder => fillsGaps pieces remainder
      | _ => false

/-- Whether a pattern with at least one gap admits the requested text. -/
def admitsByGaps (pattern requested : String) : Bool :=
  let pieces := patternPieces pattern.toList
  1 < pieces.length && fillsGaps pieces requested.toList

/-- Whether some pattern admits the requested text: the one for everything, the
text itself, or one with gaps. Only a text with a dot can fill a gap. -/
def isWhitelisted (patterns : List String) (requested : String) : Bool :=
  patterns.contains wildcard || patterns.contains requested ||
    (requested.toList.contains '.' && patterns.any fun pattern => admitsByGaps pattern requested)

/-- What the requests for one resource may refer to. -/
structure Whitelist where
  filterable : List String := []
  sortable : List String := []
  searchable : List String := []
  exposed : List String := []
deriving DecidableEq, Repr

namespace Whitelist

/-- Whether a filter may use the field. -/
def canFilter (whitelist : Whitelist) (field : String) : Bool :=
  isWhitelisted whitelist.filterable field

/-- Whether an ordering may use the field. -/
def canSort (whitelist : Whitelist) (field : String) : Bool :=
  isWhitelisted whitelist.sortable field

/-- Whether a search may use the field. -/
def canSearch (whitelist : Whitelist) (field : String) : Bool :=
  isWhitelisted whitelist.searchable field

/-- Whether a request may name the scope. -/
def exposesScope (whitelist : Whitelist) (scope : String) : Bool :=
  isWhitelisted whitelist.exposed scope

end Whitelist

end QueryGate
