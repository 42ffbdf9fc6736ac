import QueryGate.Declaration.Expression.Type

/-!
# Extents of expressions

What a setting is assigned can be any expression. The library has no use for
one, but has to know where it ends: at the first token that cannot go on it,
which is a comma unless something is wrong. So an expression is read as operands
with operators between them. What stands in groups is not looked into, but the
commas of type arguments, of closure parameters and of patterns are passed.
-/

set_option autoImplicit false

namespace QueryGate.Expression

/-! ## Operators -/

/-- The operators of three marks, of two, and of one. -/
def operators : List String :=
  ["<<=", ">>=", "&&", "||", "<<", ">>", "==", "!=", "<=", ">=", "+=", "-=", "*=", "/=", "%=",
    "^=", "&=", "|=", "+", "-", "*", "/", "%", "^", "=", "<", ">", "&", "|"]

/-- The operators that compare. Of two in a row without a looser one between
them, neither could come first. -/
def comparisons : List String := ["==", "!=", "<=", ">=", "<", ">"]

/-- The operators that bind their operands tighter than a comparison does. -/
def tighter : List String := ["<<", ">>", "+", "-", "*", "/", "%", "^", "&", "|"]

/-- The operator at the front of tokens. An arrow is none. -/
def operator? (tokens : List Token) : Option String :=
  let marks := String.ofList ((Token.glued tokens).take 3)
  if marks.startsWith "=>" then none
  else operators.find? fun operator => marks.startsWith operator

/-- The extent of the points of a range, with the mark of a closed one. -/
def rangeExtent (tokens : List Token) : Nat :=
  match Token.glued tokens with
  | '.' :: '.' :: '=' :: _ => 3
  | '.' :: '.' :: '.' :: _ => 3
  | '.' :: '.' :: _ => 2
  | _ => 0

/-! ## Words before operands -/

/-- The words that a condition or a value follows, and then a block. -/
def headers : List String := ["if", "match", "while"]

/-- The words that an operand follows. -/
def leaders : List String := ["async", "const", "move", "static", "try"]

/-- The words that a block follows. -/
def blockLeaders : List String := ["loop", "unsafe"]

/-- The words that a value may follow, and a label before it. -/
def exits : List String := ["become", "break", "return", "yield"]

/-- The reserved words that are operands. -/
def constants : List String := ["_", "false", "true"]

/-- Whether an operand begins with a word. -/
def beginsWithWord (word : String) : Bool :=
  ["continue", "for", "let"].contains word || headers.contains word || leaders.contains word ||
    blockLeaders.contains word || exits.contains word || constants.contains word ||
    AttributePath.mayHold word

/-- The marks that stand before an operand. -/
def signs : List Char := ['-', '!', '*', '&']

/-- The marks that begin an operand of its own form. -/
def openings : List Char := ['|', '<', '#', '\'']

/-- Whether the marks at the front of tokens assign or compare, or make an
arrow. -/
def isBinary (tokens : List Token) : Bool :=
  let marks := String.ofList ((Token.glued tokens).take 3)
  ["!=", "-=", "->", "*=", "&=", "|=", "<=", "<<="].any fun operator =>
    marks.startsWith operator

/-- Whether an operand begins at the front of tokens. -/
def beginsOperand (tokens : List Token) : Bool :=
  match tokens with
  | .literal _ :: _ => true
  | .group _ _ :: _ => true
  | .word word :: _ => beginsWithWord word
  | .mark ':' true :: .mark ':' _ :: _ => true
  | .mark character _ :: _ =>
      ((signs.contains character || openings.contains character) && !isBinary tokens) ||
        0 < rangeExtent tokens
  | [] => false

/-! ## Parts that hold commas of their own -/

/-- The extent of the type arguments after a separator, or zero. -/
def argumentExtent : List Token → Nat
  | .mark ':' true :: .mark ':' _ :: .mark '<' _ :: rest => 3 + TypeExtent.angles 0 rest
  | _ => 0

/-- The extent of what goes on a path: more words and type arguments, each
behind a separator. -/
def pathExtent : List Token → Except DeclarationFault Nat
  | .mark ':' true :: .mark ':' _ :: .mark '<' _ :: rest =>
      return 3 + TypeExtent.angles 0 rest +
        (← pathExtent (rest.drop (TypeExtent.angles 0 rest)))
  | .mark ':' true :: .mark ':' _ :: .word word :: rest =>
      if AttributePath.mayHold word then return 3 + (← pathExtent rest)
      else .error (.reservedWord word)
  | .mark ':' true :: .mark ':' _ :: .group .round _ :: _ => .ok 0
  | .mark ':' true :: .mark ':' _ :: rest => .error (.expectedWord rest.isEmpty)
  | _ => .ok 0
termination_by tokens => tokens.length
decreasing_by all_goals simp only [List.length_drop, List.length_cons]; omega

/-- The extent of closure parameters after their opening bar, with the closing
one. -/
def parameterExtent : List Token → Nat
  | .mark '|' _ :: _ => 1
  | _ :: rest => 1 + parameterExtent rest
  | [] => 0

/-- The extent of an arrow and the type of a closure's result, or zero. -/
def resultExtent : List Token → Nat
  | .mark '-' true :: .mark '>' _ :: rest => 2 + TypeExtent.result rest
  | _ => 0

/-- The extent of a pattern with the sign of assignment after it. -/
def patternExtent : List Token → Nat
  | .mark '.' true :: .mark '=' _ :: rest => 2 + patternExtent rest
  | .mark '=' _ :: _ => 1
  | .mark '<' _ :: rest =>
      1 + TypeExtent.angles 0 rest + patternExtent (rest.drop (TypeExtent.angles 0 rest))
  | _ :: rest => 1 + patternExtent rest
  | [] => 0
termination_by tokens => tokens.length
decreasing_by all_goals simp only [List.length_drop, List.length_cons]; omega

/-- The extent of the pattern of a loop with the word `in` after it. -/
def binderExtent (tokens : List Token) : Nat :=
  (tokens.takeWhile fun token => !token.isWord "in").length + 1

/-- The extent of what follows the sign of a reference. -/
def referenceExtent : List Token → Nat
  | .word "mut" :: _ => 1
  | .word "raw" :: .word "const" :: _ => 2
  | .word "raw" :: .word "mut" :: _ => 2
  | _ => 0

/-- The extent of the label that a word goes to. -/
def labelExtent : List Token → Nat
  | .mark '\'' _ :: .word _ :: .mark ':' _ :: _ => 0
  | .mark '\'' _ :: .word _ :: _ => 2
  | _ => 0

/-! ## Expressions -/

/-- What an operand ends with, as far as it matters for what can follow. -/
inductive Ending where
  /-- A path without type arguments. -/
  | name
  /-- Any other path. -/
  | path
  /-- The block of a condition, a choice or a loop. -/
  | block
  | other
deriving DecidableEq

/-- Whether the operand is a path. -/
def Ending.isPath (ending : Ending) : Bool :=
  ending == name || ending == path

/-- What a path ends with, by the tokens that go on it. -/
def Ending.ofPath (further : List Token) : Ending :=
  if (further.flatMap fun token => Token.glued [token]).contains '<' then path else name

/-- What can follow next. -/
inductive Awaited where
  | operand
  /-- An operator, or the end. -/
  | operator (ending : Ending)

/-- What is awaited where an operand may follow. A curly group is one only when
`braces` holds. -/
def awaitedBefore (braces : Bool) (tokens : List Token) : Awaited :=
  match tokens with
  | .group .curly _ :: _ => if braces then .operand else .operator .other
  | _ => if beginsOperand tokens then .operand else .operator .other

/-- What is awaited after a range of so many points. An open one needs no end. -/
def awaitedAfterRange (points : Nat) (braces : Bool) (tokens : List Token) : Awaited :=
  if points = 2 then awaitedBefore braces tokens else .operand

/-- Whether a block stands at the front. -/
def beginsWithBlock : List Token → Bool
  | .group .curly _ :: _ => true
  | _ => false

/-- Whether a loop or a block stands at the front, which a label may name. -/
def beginsWithLabelled : List Token → Bool
  | .word word :: _ => ["for", "loop", "while"].contains word
  | tokens => beginsWithBlock tokens

/-- Whether a label stands at the front. -/
def beginsWithLabel : List Token → Bool
  | .mark '\'' _ :: .word _ :: .mark ':' _ :: _ => true
  | _ => false

/-- Whether a group of arguments stands at the front. -/
def beginsWithArguments : List Token → Bool
  | .group .round _ :: _ => true
  | _ => false

/-- The use that tokens would make of a cast before them. -/
def castUse? : List Token → Option CastUse
  | .mark '.' true :: .mark '.' _ :: _ => none
  | .mark '.' _ :: .word "await" :: _ => some .wait
  | .mark '.' _ :: .word _ :: .group .round _ :: _ => some .method
  | .mark '.' _ :: .word _ :: .mark ':' true :: .mark ':' _ :: _ => some .method
  | .mark '.' _ :: _ => some .field
  | .mark '?' _ :: _ => some .question
  | .group .square _ :: _ => some .index
  | .group .round _ :: _ => some .call
  | _ => none

/-- What stands open around a place in an expression. -/
structure Context where
  /-- Whether a comparison can go no further. -/
  compared : Bool := false
  /-- Whether a curly group may go on a path. -/
  braces : Bool := true
  /-- The same of the place around each block that is due. -/
  due : List (Bool × Bool) := []

namespace Context

/-- The context of an expression in its own right. -/
def fresh (context : Context) : Context :=
  { context with compared := false }

/-- The context of an expression in its own right, where a curly group may go on
a path. -/
def free (context : Context) : Context :=
  { context with compared := false, braces := true }

/-- The context of a condition or value that a block follows. -/
def enter (context : Context) : Context :=
  { compared := false
    braces := false
    due := (context.compared, context.braces) :: context.due }

/-- The context after the block that was due. -/
def leave (context : Context) : Context :=
  match context.due with
  | [] => context
  | (compared, braces) :: due => { compared, braces, due }

/-- The context after an operator. -/
def after (context : Context) (operator : String) : Context :=
  { context with
    compared :=
      comparisons.contains operator || (context.compared && tighter.contains operator) }

/-- Ends the expression before the tokens, unless a block is due. -/
def stop (context : Context) (tokens : List Token) : Except DeclarationFault Nat :=
  if context.due.isEmpty then .ok 0 else .error (.expectedGroup .curly tokens.isEmpty)

end Context

/-- The extent of an expression, or of what goes on one. -/
def extent (awaited : Awaited) (context : Context) (tokens : List Token) :
    Except DeclarationFault Nat :=
  match awaited, tokens with
  | .operand, [] => .error (.expectedExpression true)
  | .operand, .literal _ :: rest => return 1 + (← extent (.operator .other) context rest)
  | .operand, .group _ _ :: rest => return 1 + (← extent (.operator .other) context rest)
  | .operand, .word "for" :: .mark '<' _ :: .mark '>' _ :: rest =>
      return 3 + (← extent .operand context rest)
  | .operand, .word "for" :: .mark '<' _ :: .mark '\'' _ :: rest =>
      return 3 + TypeExtent.angles 0 rest +
        (← extent .operand context (rest.drop (TypeExtent.angles 0 rest)))
  | .operand, .word "builtin" :: .mark '#' _ :: .word _ :: .group .round _ :: rest =>
      return 4 + (← extent (.operator .other) context rest)
  | .operand, .word word :: rest =>
      if headers.contains word then return 1 + (← extent .operand context.enter rest)
      else if leaders.contains word then return 1 + (← extent .operand context rest)
      else if blockLeaders.contains word then
        if beginsWithBlock rest then return 1 + (← extent .operand context rest)
        else .error (.expectedGroup .curly rest.isEmpty)
      else if word = "for" then
        return 1 + binderExtent rest +
          (← extent .operand context.enter (rest.drop (binderExtent rest)))
      else if word = "let" then
        return 1 + patternExtent rest +
          (← extent .operand context.fresh (rest.drop (patternExtent rest)))
      else if exits.contains word then do
        let value := rest.drop (labelExtent rest)
        let awaited := awaitedBefore (word != "break" || context.braces) value
        let further ← extent awaited context.free value
        if word = "break" ∧ beginsWithLabel rest then throw .bareLabel
        else return 1 + labelExtent rest + further
      else if word = "continue" then
        return 1 + labelExtent rest +
          (← extent (.operator .other) context (rest.drop (labelExtent rest)))
      else if constants.contains word then
        return 1 + (← extent (.operator .other) context rest)
      else if AttributePath.mayHold word then do
        let path ← pathExtent rest
        let ending := Ending.ofPath (rest.take path)
        return 1 + path + (← extent (.operator ending) context (rest.drop path))
      else .error (.expectedExpression false)
  | .operand, .mark ':' true :: .mark ':' _ :: .word word :: rest =>
      if AttributePath.mayHold word then do
        let path ← pathExtent rest
        let ending := Ending.ofPath (rest.take path)
        return 3 + path + (← extent (.operator ending) context (rest.drop path))
      else .error (.reservedWord word)
  | .operand, .mark ':' true :: .mark ':' _ :: rest => .error (.expectedWord rest.isEmpty)
  | .operand, .mark '<' _ :: rest => do
      let path ← pathExtent (rest.drop (TypeExtent.angles 0 rest))
      let qualified := TypeExtent.angles 0 rest + path
      return 1 + qualified + (← extent (.operator .path) context (rest.drop qualified))
  | .operand, .mark '|' _ :: rest =>
      let parameters := parameterExtent rest
      let typed := parameters + resultExtent (rest.drop parameters)
      let body := rest.drop typed
      if parameters < typed && !beginsWithBlock body then
        .error (.expectedGroup .curly body.isEmpty)
      else return 1 + typed + (← extent .operand context.fresh body)
  | .operand, .mark '&' _ :: rest =>
      return 1 + referenceExtent rest +
        (← extent .operand context (rest.drop (referenceExtent rest)))
  | .operand, .mark '#' _ :: .group .square _ :: rest =>
      return 2 + (← extent .operand context rest)
  | .operand, .mark '\'' _ :: .word _ :: .mark ':' _ :: rest =>
      if beginsWithLabelled rest then return 3 + (← extent .operand context rest)
      else .error (.expectedLabelled rest.isEmpty)
  | .operand, .mark character joint :: rest =>
      if signs.contains character then return 1 + (← extent .operand context rest)
      else
        match rangeExtent (.mark character joint :: rest) with
        | 0 => .error (.expectedExpression false)
        | points + 1 =>
            let next := rest.drop points
            let awaited := awaitedAfterRange (points + 1) context.braces next
            return 1 + points + (← extent awaited context.fresh next)
  | .operator _, [] => context.stop []
  | .operator _, .literal value :: rest => context.stop (.literal value :: rest)
  | .operator ending, .group bracket content :: rest =>
      if bracket ≠ .curly then return 1 + (← extent (.operator .other) context rest)
      else if context.braces && ending.isPath then
        return 1 + (← extent (.operator .other) context rest)
      else if context.due.isEmpty then context.stop (.group bracket content :: rest)
      else return 1 + (← extent (.operator .block) context.leave rest)
  | .operator ending, .word word :: rest =>
      if word = "as" then
        let type := TypeExtent.extent false rest
        match castUse? (rest.drop type) with
        | some use => .error (.usedCast use)
        | none => return 1 + type + (← extent (.operator .other) context (rest.drop type))
      else if word = "else" ∧ ending = .block then return 1 + (← extent .operand context rest)
      else context.stop (.word word :: rest)
  | .operator _, .mark '?' _ :: rest => return 1 + (← extent (.operator .other) context rest)
  | .operator .name, .mark '!' _ :: .group _ _ :: rest =>
      return 2 + (← extent (.operator .other) context rest)
  | .operator _, .mark '.' _ :: .word word :: rest =>
      if word = "await" || !AttributePath.reserved.contains word then
        let arguments := argumentExtent rest
        let next := rest.drop arguments
        if 0 < arguments && !beginsWithArguments next then
          .error (.expectedGroup .round next.isEmpty)
        else return 2 + arguments + (← extent (.operator .other) context next)
      else .error (.expectedField false)
  | .operator _, .mark '.' _ :: .literal (.number _) :: rest =>
      return 2 + (← extent (.operator .other) context rest)
  | .operator ending, .mark character joint :: rest =>
      match rangeExtent (.mark character joint :: rest) with
      | points + 1 =>
          let next := rest.drop points
          let awaited := awaitedAfterRange (points + 1) context.braces next
          return 1 + points + (← extent awaited context.fresh next)
      | 0 =>
          match operator? (.mark character joint :: rest) with
          | some operator =>
              if context.compared && comparisons.contains operator then
                .error .chainedComparison
              else
                return operator.length +
                  (← extent .operand (context.after operator) (rest.drop (operator.length - 1)))
          | none =>
              if character = '.' then .error (.expectedField rest.isEmpty)
              else if character = '!' ∧ ending = .name then
                .error (.expectedDelimiter rest.isEmpty)
              else context.stop (.mark character joint :: rest)
termination_by tokens.length
decreasing_by all_goals simp only [List.length_drop, List.length_cons] at *; omega

end QueryGate.Expression
