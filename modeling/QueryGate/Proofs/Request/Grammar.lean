import QueryGate.Request.Body

/-!
# The grammar of requests

Which bodies are requests, said of the JSON value alone and not of how it is read.
A key whose value is `null` counts as absent everywhere, keys that no clause names
are free, and the fields of filters and orders and the names of scopes are held to
the whitelist at every level.

Two words carry the whole grammar: what stands under a key is `Given` with a shape,
or it is `AbsentOr` has the shape.
-/

set_option autoImplicit false

namespace QueryGate.Request

/-! ## Keys -/

/-- Something of the shape stands under the key. -/
def Given (key : String) (fields : List (String × Json)) (shape : Json → Prop) : Prop :=
  ∃ value, Json.present? key fields = some value ∧ shape value

/-- Whatever stands under the key has the shape. -/
def AbsentOr (key : String) (fields : List (String × Json)) (shape : Json → Prop) : Prop :=
  ∀ value, Json.present? key fields = some value → shape value

/-! ## Single values -/

/-- A text. -/
def IsText (json : Json) : Prop :=
  ∃ text, json = .text text

/-- An array of any values. -/
def IsArray (json : Json) : Prop :=
  ∃ items, json = .array items

/-- A text in lower case, letter by letter. -/
def lowered (text : String) : String :=
  String.ofList (text.toList.map Char.toLower)

/-- The values that stand for a truth value. -/
inductive SpellsFlag : Json → Bool → Prop where
  | literal (value : Bool) : SpellsFlag (.bool value) value
  | zero : SpellsFlag (.int 0) false
  | one : SpellsFlag (.int 1) true
  | yes (text : String) : lowered text ∈ yesWords → SpellsFlag (.text text) true
  | no (text : String) : lowered text ∈ noWords → SpellsFlag (.text text) false

/-- A value that stands for a truth value. -/
def IsFlag (json : Json) : Prop :=
  ∃ value, SpellsFlag json value

/-- A name made of word characters, dots, dashes and `>`, without the arrow of a path
into a JSON column. -/
structure LegalName (name : String) : Prop where
  nonempty : name.toList ≠ []
  characters : ∀ character ∈ name.toList,
    Text.isWord character = true ∨ character = '.' ∨ character = '-' ∨ character = '>'
  arrowless : ¬ ['-', '>'] <:+: name.toList

/-- A legal name that is admitted. -/
def IsName (admits : String → Bool) (json : Json) : Prop :=
  ∃ name, json = .text name ∧ LegalName name ∧ admits name = true

/-! ## Filters -/

/-- The word `and` or the word `or`. -/
def IsCombinator (json : Json) : Prop :=
  json = .text "and" ∨ json = .text "or"

/-- One of the spellings of operators. -/
def IsOperator (json : Json) : Prop :=
  ∃ operator : Operator, json = .text operator.text

/-- The spelling of an operator that takes a list. -/
def IsMembership (json : Json) : Prop :=
  ∃ operator : Operator, operator.isMembership = true ∧ json = .text operator.text

/-- A text, a truth value, or a number that is not an integer beyond the words. -/
def IsScalar (json : Json) : Prop :=
  ∃ scalar, Scalar.ofJson? json = some scalar

/-- A list of scalars. -/
def IsScalars (json : Json) : Prop :=
  ∃ items, json = .array items ∧ ∀ item ∈ items, IsScalar item

/-- A value and an operator that fit: no value asks only whether one is missing, and
a list goes only with an operator that takes one. -/
inductive IsComparison (fields : List (String × Json)) : Prop where
  | missing :
      Json.present? "value" fields = none →
      AbsentOr "operator" fields (fun json => json = .text "=" ∨ json = .text "!=") →
      IsComparison fields
  | scalar :
      Given "value" fields IsScalar → AbsentOr "operator" fields IsOperator →
      IsComparison fields
  | list :
      Given "value" fields IsScalars → AbsentOr "operator" fields IsMembership →
      IsComparison fields

/-- A node of a filter list: a group of nodes, or the test of a field. A field beside
nested nodes is a name that filters may use all the same. -/
inductive IsFilter (whitelist : Whitelist) : Json → Prop where
  | group (fields : List (String × Json)) (items : List Json) :
      AbsentOr "type" fields IsCombinator →
      AbsentOr "field" fields (IsName whitelist.canFilter) →
      Json.present? "nested" fields = some (.array items) →
      (∀ item ∈ items, IsFilter whitelist item) →
      IsFilter whitelist (.object fields)
  | test (fields : List (String × Json)) :
      AbsentOr "type" fields IsCombinator →
      Given "field" fields (IsName whitelist.canFilter) →
      Json.present? "nested" fields = none →
      IsComparison fields →
      IsFilter whitelist (.object fields)

/-- A list of filter nodes. -/
def IsFilterList (whitelist : Whitelist) (json : Json) : Prop :=
  ∃ items, json = .array items ∧ ∀ item ∈ items, IsFilter whitelist item

/-! ## The other clauses -/

/-- A list of objects of a shape. -/
def IsEntries (shape : List (String × Json) → Prop) (json : Json) : Prop :=
  ∃ items, json = .array items ∧ ∀ item ∈ items, ∃ fields, item = .object fields ∧ shape fields

/-- A scope that is exposed, with a list of parameters if any. -/
structure IsScope (whitelist : Whitelist) (fields : List (String × Json)) : Prop where
  name : Given "name" fields fun json =>
    ∃ name, json = .text name ∧ whitelist.exposesScope name = true
  parameters : AbsentOr "parameters" fields IsArray

/-- The word for a direction, in any case. -/
def IsDirection (json : Json) : Prop :=
  ∃ word, json = .text word ∧ (lowered word = "asc" ∨ lowered word = "desc")

/-- An order by a field that orders may use. -/
structure IsOrder (whitelist : Whitelist) (fields : List (String × Json)) : Prop where
  field : Given "field" fields (IsName whitelist.canSort)
  direction : AbsentOr "direction" fields IsDirection

/-- A search for a term, if one is given. -/
def IsSearch (json : Json) : Prop :=
  ∃ fields, json = .object fields ∧ AbsentOr "value" fields IsText ∧
    AbsentOr "case_sensitive" fields IsFlag

/-! ## Bodies -/

/-- The fields of a body whose clauses are all of their shape. -/
structure IsRequest (whitelist : Whitelist) (fields : List (String × Json)) : Prop where
  scopes : AbsentOr "scopes" fields (IsEntries (IsScope whitelist))
  filters : AbsentOr "filters" fields (IsFilterList whitelist)
  search : AbsentOr "search" fields IsSearch
  sorting : AbsentOr "sort" fields (IsEntries (IsOrder whitelist))
  withTrashed : AbsentOr "with_trashed" fields IsFlag
  onlyTrashed : AbsentOr "only_trashed" fields IsFlag

/-- A body that is a request. -/
inductive IsBody (whitelist : Whitelist) : Json → Prop where
  | empty : IsBody whitelist .null
  | object (fields : List (String × Json)) :
      IsRequest whitelist fields → IsBody whitelist (.object fields)

/-- The filters of the body, if any, are not nested deeper than configured. -/
def PassesDepth (config : Config) (body : Json) : Prop :=
  ∀ fields, body = .object fields →
    AbsentOr "filters" fields fun filters => filterDepth filters ≤ config.maxNestedDepth

end QueryGate.Request
