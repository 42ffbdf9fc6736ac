import QueryGate.Declaration.Path

/-!
# Extents of types

How many tokens a type takes inside an expression. Angle brackets are no
brackets of a group, so the commas between them are told from those of a list
only by counting the brackets. The type that a value is cast to has to be read
as such, because an operator can follow it. The type of a closure's result has a
block after it, so it runs as far as that block.
-/

set_option autoImplicit false

namespace QueryGate.TypeExtent

/-- The extent of what follows an opening angle bracket, with the closing one,
when as many brackets inside it are open as `depth` says. An arrow closes none. -/
def angles : Nat → List Token → Nat
  | depth, .mark '-' true :: .mark '>' _ :: rest => 2 + angles depth rest
  | depth, .mark '<' _ :: rest => 1 + angles (depth + 1) rest
  | 0, .mark '>' _ :: _ => 1
  | depth + 1, .mark '>' _ :: rest => 1 + angles depth rest
  | depth, _ :: rest => 1 + angles depth rest
  | _, [] => 0

/-- The words that stand before a type and belong to it. -/
def modifiers : List String := ["const", "dyn", "extern", "impl", "mut", "unsafe"]

/-- The marks that stand before a type and belong to it. -/
def signs : List Char := ['&', '*', '?', '~']

/-- Whether a word may begin the name of a type. -/
def isName (word : String) : Bool :=
  word == "fn" || AttributePath.mayHold word

/-- The extent of a type that a value is cast to, or of what follows a name in
it when `named` holds. -/
def extent : (named : Bool) → List Token → Nat
  | false, .group bracket _ :: _ => if bracket = .curly then 0 else 1
  | false, .mark '!' _ :: _ => 1
  | false, .mark '<' _ :: rest =>
      1 + angles 0 rest + extent true (rest.drop (angles 0 rest))
  | false, .mark ':' true :: .mark ':' _ :: rest => 2 + extent false rest
  | false, .mark '\'' _ :: .word _ :: rest => 2 + extent false rest
  | false, .mark character _ :: rest =>
      if signs.contains character then 1 + extent false rest else 0
  | false, .word "extern" :: .literal _ :: rest => 2 + extent false rest
  | false, .word "for" :: .mark '<' _ :: rest =>
      2 + angles 0 rest + extent false (rest.drop (angles 0 rest))
  | false, .word word :: rest =>
      if word = "_" then 1
      else if modifiers.contains word then 1 + extent false rest
      else if isName word then 1 + extent true rest
      else 0
  | true, .mark '<' true :: .mark '=' _ :: _ => 0
  | true, .mark '<' _ :: rest =>
      1 + angles 0 rest + extent true (rest.drop (angles 0 rest))
  | true, .mark ':' true :: .mark ':' _ :: .mark '<' _ :: rest =>
      3 + angles 0 rest + extent true (rest.drop (angles 0 rest))
  | true, .mark ':' true :: .mark ':' _ :: .word _ :: rest => 3 + extent true rest
  | true, .mark ':' true :: .mark ':' _ :: .group .round content :: rest =>
      2 + extent true (.group .round content :: rest)
  | true, .mark '!' _ :: .group _ _ :: _ => 2
  | true, .group .round _ :: .mark '-' true :: .mark '>' _ :: rest => 3 + extent false rest
  | true, .group .round _ :: _ => 1
  | _, _ => 0
termination_by _ tokens => tokens.length
decreasing_by all_goals simp only [List.length_drop, List.length_cons]; omega

/-- The extent of the type of a closure's result: up to the block after it. A
curly group that a macro name stands before belongs to the type. -/
def result : List Token → Nat
  | .group .curly _ :: _ => 0
  | .mark ',' _ :: _ => 0
  | .word _ :: .mark '!' _ :: .group _ _ :: rest => 3 + result rest
  | .mark '-' true :: .mark '>' _ :: rest => 2 + result rest
  | .mark '<' _ :: rest => 1 + angles 0 rest + result (rest.drop (angles 0 rest))
  | _ :: rest => 1 + result rest
  | [] => 0
termination_by tokens => tokens.length
decreasing_by all_goals simp only [List.length_drop, List.length_cons]; omega

end QueryGate.TypeExtent
