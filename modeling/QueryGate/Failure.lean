import QueryGate.Json.Basic
import QueryGate.Violation

/-!
# Failures and their responses

A request is refused because it cannot be read at all, because it breaks rules,
because the resource is not set up to serve it, or because the host failed. The
first two are the client's to mend and are told in full. The other two are told
in one fixed sentence or the host's own; what is wrong inside goes to the log
only, so the response is a function of the public part of a failure.
-/

set_option autoImplicit false

namespace QueryGate

/-- What clients are told of a resource that is not set up to serve a request. -/
def unservedMessage : String :=
  "The resource is not configured to serve this query"

/-- What is wrong with the set-up of a resource. -/
inductive Misconfiguration where
  | emptyPath
  | unknownRelation (relation table : String)
  | unregisteredModel (table relation : String)
  /-- A path goes on after a relation that has no fixed table. -/
  | continuedPath (path : String)
  /-- A filter or a search goes through a relation that has no fixed table. -/
  | looseRelation (path table : String)
  | missingPivot (field table : String)
  | unregisteredScope (scope : String)
  /-- A cause stated by the host in its own words. -/
  | stated (text : String)
  /-- A cause stated by the host, and the message for clients that goes with it. -/
  | announced (text message : String)
deriving DecidableEq, Repr

/-- The wording of a misconfiguration, for the log. -/
def Misconfiguration.detail : Misconfiguration → String
  | emptyPath => "empty relation path"
  | unknownRelation relation table => s!"relation '{relation}' is not defined on '{table}'"
  | unregisteredModel table relation =>
      s!"model '{table}' used by relation '{relation}' is not registered"
  | continuedPath path => s!"relation path '{path}' continues past a morph-to relation"
  | looseRelation path table =>
      s!"relation '{path}' on '{table}' is morph-to and cannot be constrained"
  | missingPivot field table =>
      s!"'{field}' needs a pivot table but '{table}' is not queried through one"
  | unregisteredScope scope => s!"scope '{scope}' is exposed but not registered"
  | stated text => text
  | announced text _ => text

/-- What clients are told of a misconfiguration. -/
def Misconfiguration.message : Misconfiguration → String
  | announced _ message => message
  | _ => unservedMessage

/-- Why a request is not served. -/
inductive Failure where
  | unreadable (message : String)
  | invalid (violations : List Violation)
  | misconfigured (cause : Misconfiguration)
  | internal (message : String) (detail : Option String)
deriving DecidableEq, Repr

/-- The status of a refusal. -/
inductive Status where
  | badRequest
  | unprocessable
  | serverError
deriving DecidableEq, Repr

/-- The status number. -/
def Status.code : Status → Nat
  | badRequest => 400
  | unprocessable => 422
  | serverError => 500

/-- The status number and its phrase. -/
def Status.text : Status → String
  | badRequest => "400 Bad Request"
  | unprocessable => "422 Unprocessable Entity"
  | serverError => "500 Internal Server Error"

/-- What a client is told. -/
structure Response where
  status : Status
  error : String
  details : Option (List Violation)
deriving DecidableEq, Repr

/-- The JSON form of a violation. -/
def Violation.toJson (violation : Violation) : Json :=
  .object [("field", .text violation.field), ("message", .text violation.message)]

/-- The JSON body of a response: the error, and the violations where a request
breaks rules. -/
def Response.body (response : Response) : Json :=
  let error : List (String × Json) := [("error", .text response.error)]
  .object
    (match response.details with
    | none => error
    | some violations => ("details", .array (violations.map Violation.toJson)) :: error)

namespace Failure

/-- A single violation. -/
def violation (place : Place) (reason : Reason) : Failure :=
  invalid [⟨place, reason⟩]

/-- The status of the refusal. -/
def status : Failure → Status
  | unreadable _ => .badRequest
  | invalid _ => .unprocessable
  | misconfigured _ => .serverError
  | internal _ _ => .serverError

/-- The violations, none for the other failures. -/
def violations : Failure → List Violation
  | invalid violations => violations
  | _ => []

/-- What is wrong inside, for the log. -/
def detail? : Failure → Option String
  | misconfigured cause => some cause.detail
  | internal _ detail => detail
  | _ => none

/-- The message that may be shown to a client. -/
def message : Failure → String
  | unreadable message => message
  | invalid [violation] => violation.text
  | invalid violations => "Validation failed: " ++ ", ".intercalate (violations.map Violation.text)
  | misconfigured cause => cause.message
  | internal message _ => message

/-- The response to the client. -/
def response (failure : Failure) : Response :=
  match failure with
  | invalid violations => ⟨failure.status, "Validation failed", some violations⟩
  | other => ⟨failure.status, other.message, none⟩

end Failure

end QueryGate
