/-!
# Types of declared fields

Of a field's type only its last name counts, whatever path stands before it. A
type is a date when that name is one of the date types, and an optional type
counts as the type of its first argument.
-/

set_option autoImplicit false

namespace QueryGate

mutual

/-- A type expression. -/
inductive FieldType where
  /-- A path of names with arguments. -/
  | path (segments : List TypeSegment)
  /-- A type of any other form. -/
  | other

/-- A name in a path, with its arguments. -/
inductive TypeSegment where
  | mk (name : String) (arguments : List TypeArgument)

/-- An argument of a name. -/
inductive TypeArgument where
  | type (type : FieldType)
  | lifetime

end

namespace TypeSegment

/-- The name. -/
def name : TypeSegment → String
  | mk name _ => name

/-- The arguments of the name. -/
def arguments : TypeSegment → List TypeArgument
  | mk _ arguments => arguments

end TypeSegment

namespace FieldType

/-- The names of the types of dates, with or without a time of day. -/
def dateNames : List String :=
  ["Date", "DateTime", "DateTimeUtc", "DateTimeLocal", "DateTimeWithTimeZone", "NaiveDate",
    "NaiveDateTime", "OffsetDateTime", "PrimitiveDateTime", "TimeDate", "TimeDateTime",
    "TimeDateTimeWithTimeZone"]

/-- The last name of a path. -/
def lastSegment? : FieldType → Option TypeSegment
  | path segments => segments.getLast?
  | other => none

/-- Whether the type is optional. -/
def isOptional (type : FieldType) : Bool :=
  type.lastSegment?.any fun segment => segment.name == "Option"

/-- The type itself, or the one inside an optional type. -/
def required (type : FieldType) : FieldType :=
  match type.lastSegment? with
  | some (.mk "Option" (.type inner :: _)) => inner
  | _ => type

/-- Whether the type is a date, optional or not. -/
def isDate (type : FieldType) : Bool :=
  type.required.lastSegment?.any fun segment => dateNames.contains segment.name

end FieldType

end QueryGate
