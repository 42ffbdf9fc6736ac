import QueryGate.Json.Basic
import QueryGate.Number.Reader

/-!
# Reading JSON texts

A text is cut into tokens and the tokens are put together to a value, both one
step at a time: a step takes the state and the next character or token and
gives the next state, or refuses. So both passes are recursions on their input,
and a value is read exactly when no step refuses and the last state is a
finished one.

The reader is strict. It refuses unpaired surrogates, control characters in
texts, numbers too large for a double and values with more than 127 containers
inside one another. Of equal keys in one object the last one counts.
-/

set_option autoImplicit false

namespace QueryGate.Json

/-! ## Numbers -/

/-- The parts of a number literal. -/
structure Literal where
  negative : Bool
  whole : List Char
  fraction : List Char
  exponent : Int
  /-- Whether the literal has neither a point nor an exponent. -/
  isWhole : Bool

/-- The digits after a point, which are at least one, and the rest. -/
def takeFraction? : List Char → Option (List Char × List Char)
  | '.' :: rest =>
      let (digits, after) := Number.takeDigits rest
      if digits.isEmpty then none else some (digits, after)
  | rest => some ([], rest)

/-- The literal that a run of characters spells: no sign but a minus and no
needless leading zero. -/
def literal? (characters : List Char) : Option Literal := do
  let (negative, unsigned) :=
    match characters with
    | '-' :: rest => (true, rest)
    | rest => (false, rest)
  let (whole, afterWhole) := Number.takeDigits unsigned
  if whole.isEmpty || (1 < whole.length && whole.head? == some '0') then none
  let (fraction, afterFraction) ← takeFraction? afterWhole
  let exponent ← Number.readExponent? afterFraction
  return ⟨negative, whole, fraction, exponent, afterWhole.isEmpty⟩

/-- The number that a literal stands for. A whole literal is an integer when it
is within the 64-bit words, and minus zero is a float. -/
def Literal.number? (literal : Literal) : Option Json :=
  let magnitude := Number.digitsValue 0 literal.whole
  let asFloat :=
    (Number.scaled literal.whole literal.fraction literal.exponent).map fun value =>
      float (if literal.negative then -value else value)
  if !literal.isWhole then asFloat
  else if literal.negative then
    if magnitude = 0 ∨ (Number.int64? (-magnitude)).isNone then asFloat
    else some (int (-magnitude))
  else if magnitude < UInt64.size then some (int magnitude)
  else asFloat

/-! ## Tokens -/

/-- The tokens of a JSON text. -/
inductive Token where
  | openArray
  | closeArray
  | openObject
  | closeObject
  | comma
  | colon
  | text (value : String)
  /-- A number or one of the three words. -/
  | plain (value : Json)

/-- Where the reader of tokens stands between two characters. Texts, numbers
and words are collected from their last character to their first. -/
inductive Scan where
  | between
  | text (collected : List Char)
  | escape (collected : List Char)
  /-- In the four digits of an escaped code unit, after the first half of a
  surrogate pair when `high` is given. -/
  | unit (collected : List Char) (high : Option Nat) (digits : Nat) (code : Nat)
  /-- Before the backslash of the second half of a surrogate pair. -/
  | pairBackslash (collected : List Char) (high : Nat)
  /-- Before the letter of the second half of a surrogate pair. -/
  | pairLetter (collected : List Char) (high : Nat)
  | number (collected : List Char)
  | word (collected : List Char)

/-- The value of a hexadecimal digit. -/
def hexValue? (character : Char) : Option Nat :=
  if character.isDigit then some (character.toNat - '0'.toNat)
  else if 'a' ≤ character ∧ character ≤ 'f' then some (character.toNat - 'a'.toNat + 10)
  else if 'A' ≤ character ∧ character ≤ 'F' then some (character.toNat - 'A'.toNat + 10)
  else none

/-- The state after the last digit of an escaped code unit. -/
def afterUnit (collected : List Char) (high : Option Nat) (code : Nat) : Option Scan :=
  match high with
  | none =>
      if 0xD800 ≤ code ∧ code < 0xDC00 then some (.pairBackslash collected code)
      else if 0xDC00 ≤ code ∧ code < 0xE000 then none
      else some (.text (Char.ofNat code :: collected))
  | some first =>
      if 0xDC00 ≤ code ∧ code < 0xE000 then
        let character := 0x10000 + (first - 0xD800) * 0x400 + (code - 0xDC00)
        some (.text (Char.ofNat character :: collected))
      else none

/-- The character that a one-letter escape stands for. -/
def escaped? : Char → Option Char
  | '\x22' => some '\x22'
  | '\x5C' => some '\x5C'
  | '/' => some '/'
  | 'b' => some '\x08'
  | 'f' => some '\x0C'
  | 'n' => some '\n'
  | 'r' => some '\r'
  | 't' => some '\t'
  | _ => none

/-- Whether the character may stand in a number literal. -/
def inNumber (character : Char) : Bool :=
  character.isDigit || ['-', '+', '.', 'e', 'E'].contains character

/-- The token that a finished number or word makes. -/
def finished? : Scan → Option (List Token)
  | .between => some []
  | .number collected => do
      let literal ← literal? collected.reverse
      let value ← literal.number?
      return [.plain value]
  | .word collected =>
      match String.ofList collected.reverse with
      | "null" => some [.plain null]
      | "true" => some [.plain (bool true)]
      | "false" => some [.plain (bool false)]
      | _ => none
  | _ => none

/-- The token and the state for a character between two tokens. -/
def scanBetween (character : Char) : Option (List Token × Scan) :=
  match character with
  | ' ' => some ([], .between)
  | '\t' => some ([], .between)
  | '\n' => some ([], .between)
  | '\r' => some ([], .between)
  | '[' => some ([.openArray], .between)
  | ']' => some ([.closeArray], .between)
  | '\x7b' => some ([.openObject], .between)
  | '\x7d' => some ([.closeObject], .between)
  | ',' => some ([.comma], .between)
  | ':' => some ([.colon], .between)
  | '\x22' => some ([], .text [])
  | other =>
      if other.isDigit || other == '-' then some ([], .number [other])
      else if other.isLower then some ([], .word [other])
      else none

/-- The tokens that one character completes, and the state after it. -/
def scanStep : Scan → Char → Option (List Token × Scan)
  | .between, character => scanBetween character
  | .text collected, character =>
      if character = '\x22' then some ([.text (String.ofList collected.reverse)], .between)
      else if character = '\x5C' then some ([], .escape collected)
      else if character.toNat < 0x20 then none
      else some ([], .text (character :: collected))
  | .escape collected, character =>
      if character = 'u' then some ([], .unit collected none 0 0)
      else (escaped? character).map fun meant => ([], .text (meant :: collected))
  | .unit collected high digits code, character => do
      let digit ← hexValue? character
      let value := 16 * code + digit
      if digits < 3 then return ([], .unit collected high (digits + 1) value)
      else
        let next ← afterUnit collected high value
        return ([], next)
  | .pairBackslash collected high, character =>
      if character = '\x5C' then some ([], .pairLetter collected high) else none
  | .pairLetter collected high, character =>
      if character = 'u' then some ([], .unit collected (some high) 0 0) else none
  | .number collected, character =>
      if inNumber character then some ([], .number (character :: collected))
      else do
        let done ← finished? (.number collected)
        let (more, next) ← scanBetween character
        return (done ++ more, next)
  | .word collected, character =>
      if character.isLower then some ([], .word (character :: collected))
      else do
        let done ← finished? (.word collected)
        let (more, next) ← scanBetween character
        return (done ++ more, next)

/-- The tokens of a text, read on from a state. -/
def tokensFrom : Scan → List Char → Option (List Token)
  | state, [] => finished? state
  | state, character :: rest => do
      let (done, next) ← scanStep state character
      let more ← tokensFrom next rest
      return done ++ more

/-! ## Values -/

/-- A container that is still open: the items so far from the last to the
first, or the fields so far with the key whose value comes next. -/
inductive Frame where
  | array (items : List Json)
  | object (fields : List (String × Json)) (key : String)

/-- Where the reader of values stands between two tokens, inside the open
containers from the innermost outwards. -/
inductive Stage where
  | value (outer : List Frame)
  /-- After the opening of an array: a value or the end. -/
  | firstItem (outer : List Frame)
  /-- After the opening of an object: a key or the end. -/
  | firstKey (outer : List Frame)
  | key (fields : List (String × Json)) (outer : List Frame)
  | colon (fields : List (String × Json)) (key : String) (outer : List Frame)
  | afterItem (items : List Json) (outer : List Frame)
  | afterField (fields : List (String × Json)) (outer : List Frame)
  | finished (value : Json)

/-- The most containers that may be inside one another. -/
def maximumNesting : Nat := 127

/-- The state after a whole value. -/
def supply (value : Json) : List Frame → Stage
  | [] => .finished value
  | .array items :: outer => .afterItem (value :: items) outer
  | .object fields key :: outer => .afterField (Keyed.insert key value fields) outer

/-- The state after a token where a value is due. -/
def valueStep (outer : List Frame) : Token → Option Stage
  | .plain value => some (supply value outer)
  | .text value => some (supply (text value) outer)
  | .openArray => if outer.length < maximumNesting then some (.firstItem outer) else none
  | .openObject => if outer.length < maximumNesting then some (.firstKey outer) else none
  | _ => none

/-- The state after a token. -/
def stageStep : Stage → Token → Option Stage
  | .value outer, token => valueStep outer token
  | .firstItem outer, .closeArray => some (supply (array []) outer)
  | .firstItem outer, token => valueStep (.array [] :: outer) token
  | .firstKey outer, .closeObject => some (supply (object []) outer)
  | .firstKey outer, .text name => some (.colon [] name outer)
  | .key fields outer, .text name => some (.colon fields name outer)
  | .colon fields name outer, .colon => some (.value (.object fields name :: outer))
  | .afterItem items outer, .comma => some (.value (.array items :: outer))
  | .afterItem items outer, .closeArray => some (supply (array items.reverse) outer)
  | .afterField fields outer, .comma => some (.key fields outer)
  | .afterField fields outer, .closeObject => some (supply (object fields) outer)
  | _, _ => none

/-- The value that tokens make, read on from a state. -/
def valueFrom : Stage → List Token → Option Json
  | .finished value, [] => some value
  | _, [] => none
  | stage, token :: rest => (stageStep stage token).bind fun next => valueFrom next rest

/-- The value of a JSON text. -/
def read? (text : String) : Option Json :=
  (tokensFrom .between text.toList).bind (valueFrom (.value []))

end QueryGate.Json
