import QueryGate.Text.CaseTable

/-!
# Lower case

Full lower-casing of a text. Every character is replaced by its lower-case
form, with two exceptions. Capital I with a dot above becomes two characters,
a small i and a combining dot. Capital sigma takes its final form at the end
of a word: a character with a case stands before it, none stands after it, and
case-ignorable characters in between are passed over.
-/

set_option autoImplicit false

namespace QueryGate.Text

/-- The form of `code` in a run, when the run lists it. -/
def LowerRun.form? (run : LowerRun) (code : Nat) : Option Nat :=
  if run.first ≤ code && code ≤ run.last && (code - run.first) % run.step == 0 then
    some (run.target + (code - run.first))
  else none

/-- The lower-case form of a single character, without regard to its place. -/
def lowerForm (character : Char) : List Char :=
  if character.toNat < 0x80 then [character.toLower]
  else if character = '\u0130' then ['i', '\u0307']
  else
    match lowerRuns.findSome? fun run => run.form? character.toNat with
    | some code => [Char.ofNat code]
    | none => [character]

/-- Whether the character has a case. -/
def isCased (character : Char) : Bool :=
  if character.toNat < 0x80 then character.isAlpha else casedRanges.contains character

/-- Whether the character is passed over when a neighbour's case is asked for. -/
def isCaseIgnorable (character : Char) : Bool :=
  if character.toNat < 0x80 then ['\x27', '.', ':', '^', '\x60'].contains character
  else caseIgnorableRanges.contains character

/-- Whether the nearest character that is not case-ignorable has a case. -/
def meetsCased (characters : List Char) : Bool :=
  match characters.dropWhile isCaseIgnorable with
  | [] => false
  | character :: _ => isCased character

/-- Lower-cases the characters that follow `before`, which is given from its
last character to its first. -/
def lowerAfter (before : List Char) : List Char → List Char
  | [] => []
  | character :: rest =>
      let form :=
        if character = 'Σ' then
          if meetsCased before && !meetsCased rest then ['ς'] else ['σ']
        else lowerForm character
      form ++ lowerAfter (character :: before) rest

/-- The text in lower case. -/
def lowercase (text : String) : String :=
  String.ofList (lowerAfter [] text.toList)

end QueryGate.Text
