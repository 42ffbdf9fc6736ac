import QueryGate.Declaration.IntegerLiteral
import QueryGate.Declaration.Token.Basic
import QueryGate.Declaration.Token.Extent

/-!
# Quoted literals

A literal between quotes is a text, a character, or a row of bytes. Plain quotes
hold escapes; raw ones, marked by `r` and closed by as many `#` as they are
opened with, hold their characters as they are. Only the value of a text
matters.
-/

set_option autoImplicit false

namespace QueryGate.Quotation

/-- The extent of what follows a plain opening quote, with the closing one. -/
def plainExtent (quote : Char) : List Char → Nat
  | '\\' :: _ :: rest => 2 + plainExtent quote rest
  | character :: rest => if character = quote then 1 else 1 + plainExtent quote rest
  | [] => 0

/-- The extent of what stands before a closing mark. -/
def rawExtent (closing : List Char) : List Char → Nat
  | [] => 0
  | character :: rest =>
      if closing.isPrefixOf (character :: rest) then 0 else 1 + rawExtent closing rest

/-! ## Escapes -/

/-- The number that hexadecimal digits spell. -/
def hexadecimal (digits : List Char) : Nat :=
  (digits.filterMap (IntegerLiteral.digit? 16)).foldl (fun value digit => 16 * value + digit) 0

/-- What an escape means, given what follows its mark, and the extent of it. The
end of a line is escaped with all blanks after it. -/
def escape : List Char → List Char × Nat
  | 'n' :: _ => (['\n'], 1)
  | 'r' :: _ => (['\r'], 1)
  | 't' :: _ => (['\t'], 1)
  | '0' :: _ => (['\x00'], 1)
  | 'x' :: rest => ([Char.ofNat (hexadecimal (rest.take 2))], 3)
  | 'u' :: rest =>
      let digits := rest.takeWhile (· != '\x7d')
      ([Char.ofNat (hexadecimal digits)], digits.length + 2)
  | character :: rest =>
      if character = '\n' ∨ character = '\r' then
        ([], 1 + Extent.run (fun next => next == ' ' || next == '\t' || next == '\n' ||
          next == '\r') rest)
      else ([character], 1)
  | [] => ([], 0)

/-- The characters that the inside of plain quotes stands for. -/
def unescape : List Char → List Char
  | [] => []
  | '\\' :: rest => (escape rest).1 ++ unescape (rest.drop (escape rest).2)
  | '\r' :: '\n' :: rest => '\n' :: unescape rest
  | character :: rest => character :: unescape rest
termination_by characters => characters.length
decreasing_by all_goals simp only [List.length_drop, List.length_cons]; omega

/-! ## Literals -/

/-- A plain text after its opening quote, and its extent. -/
def plain (characters : List Char) : String × Nat :=
  let extent := plainExtent '"' characters
  (String.ofList (unescape (characters.take (extent - 1))), extent)

/-- A raw text after its mark, and its extent. -/
def raw? (characters : List Char) : Option (String × Nat) :=
  let hashes := Extent.run (· == '#') characters
  match characters.drop hashes with
  | '"' :: rest =>
      let closing := '"' :: List.replicate hashes '#'
      let extent := rawExtent closing rest
      some (String.ofList (rest.take extent), hashes + 1 + extent + closing.length)
  | _ => none

/-- The extent of a character after its opening quote, if it is closed. -/
def characterExtent? : List Char → Option Nat
  | '\\' :: rest => some (plainExtent '\'' ('\\' :: rest))
  | _ :: '\'' :: _ => some 2
  | _ => none

/-- The literal that a quotation at the front makes, and its extent. -/
def read? : List Char → Option (Literal × Nat)
  | '"' :: rest => some (.text (plain rest).1, 1 + (plain rest).2)
  | 'r' :: rest => (raw? rest).map fun (value, extent) => (.text value, 1 + extent)
  | '\'' :: rest => (characterExtent? rest).map fun extent => (.other, 1 + extent)
  | 'b' :: '\'' :: rest => (characterExtent? rest).map fun extent => (.other, 2 + extent)
  | letter :: '"' :: rest =>
      if letter = 'b' ∨ letter = 'c' then some (.other, 2 + plainExtent '"' rest) else none
  | letter :: 'r' :: rest =>
      if letter = 'b' ∨ letter = 'c' then
        (raw? rest).map fun (_, extent) => (.other, 2 + extent)
      else none
  | _ => none

end QueryGate.Quotation
