import QueryGate.Json.Basic

/-!
# Flags in requests

A truth value in a request is a JSON truth value, the integer zero or one, or
one of the usual words for yes and no in any case. The empty text is no.
-/

set_option autoImplicit false

namespace QueryGate.Request

/-- The texts for yes. -/
def yesWords : List String := ["1", "true", "yes", "on"]

/-- The texts for no. -/
def noWords : List String := ["0", "false", "no", "off", ""]

/-- The truth value that a text spells. -/
def flagOfText? (text : String) : Option Bool :=
  let word := String.ofList (text.toList.map Char.toLower)
  if yesWords.contains word then some true
  else if noWords.contains word then some false
  else none

/-- The truth value that a JSON value spells. -/
def flag? : Json → Option Bool
  | .bool value => some value
  | .int value => if value = 0 then some false else if value = 1 then some true else none
  | .text value => flagOfText? value
  | _ => none

end QueryGate.Request
