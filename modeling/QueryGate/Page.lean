import QueryGate.Json.Basic
import QueryGate.Number.Reader
import QueryGate.Sql.Basic
import QueryGate.Text.Blank

/-!
# Pages

A page of a list is a window of rows: so many from a first one on. Both numbers
are unsigned 64-bit words. A page size that is missing or not positive is the
default one, no page size exceeds the greatest one, and pages are counted from
one. The first row of a page far out is the greatest word, never a smaller one
that the product would wrap around to.
-/

set_option autoImplicit false

namespace QueryGate

/-- A page of a list. -/
structure Page where
  number : UInt64
  limit : UInt64
deriving DecidableEq, Repr

namespace Page

/-- A positive integer as a word. -/
def positive? (value : Int64) : Option UInt64 :=
  if 0 < value then some value.toUInt64 else none

/-- The product of two words, or the greatest word where it does not fit. -/
def saturatingProduct (left right : UInt64) : UInt64 :=
  if left.toNat * right.toNat < UInt64.size then left * right else UInt64.ofNat (UInt64.size - 1)

/-- The page that a request for a size and a number gets. -/
def resolve (limit number : Option Int64) (defaultLimit : UInt64) (maxLimit : Option UInt64) :
    Page :=
  let size := (limit.bind positive?).getD defaultLimit
  { number := (number.bind positive?).getD 1
    limit :=
      match maxLimit with
      | none => size
      | some greatest => min size greatest }

/-- An integer in a request: a number, or a text that spells one. -/
def requested? : Json → Option Int64
  | .int value => Number.int64? value
  | .text value => Number.readInt64? (Text.trimBlanks value.toList)
  | _ => none

/-- The page that a request body asks for. -/
def ofRequest (body : Json) (defaultLimit : UInt64) (maxLimit : Option UInt64) : Page :=
  resolve ((body.field? "limit").bind requested?) ((body.field? "page").bind requested?)
    defaultLimit maxLimit

/-- How many rows lie before the page. -/
def offset (page : Page) : UInt64 :=
  saturatingProduct (page.number - 1) page.limit

/-- The statement reduced to the rows of the page. -/
def apply (page : Page) (select : Sql.Select) : Sql.Select :=
  { select with limit := some page.limit, offset := some page.offset }

end Page

end QueryGate
