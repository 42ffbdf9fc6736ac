import QueryGate.Page
import QueryGate.Proofs.Success
import QueryGate.Request.Body
import QueryGate.Request.QueryString

/-!
# Requests in query strings

A request can come as a body or as the parameters of a query string, and the two are
served alike. Parameters are turned down exactly when one of their four clauses is no JSON
text, and each such clause is told of. Otherwise they make a body, and every other body
that carries the same values is read to the same query, or turned down with the same
violations, and asks for the same page (`toRequest_agrees`).

What a body carries is said key by key, where `null` counts as absent. The body that
parameters make carries their values itself (`carries_toRequest`), and bodies that carry
the same values are read alike (`Carries.parse_eq`).
-/

set_option autoImplicit false

namespace QueryGate.Request.ListParameters

variable {parameters : ListParameters} {fields others : List (String × Json)}

/-! ## Carried values -/

/-- The text spells no JSON value. -/
def isMalformed (text : String) : Bool :=
  (Json.read? text).isNone

/-- The clauses that come as JSON texts, under their keys and in their order. -/
def texts (parameters : ListParameters) : List (String × Option String) :=
  [("scopes", parameters.scopes), ("filters", parameters.filters), ("search", parameters.search),
    ("sort", parameters.sort)]

/-- The keys of the clauses that are given and are no JSON texts. -/
def malformedKeys (parameters : ListParameters) : List String :=
  (parameters.texts.filter fun entry => entry.2.any isMalformed).map Prod.fst

/-- What stands under the key is what the text spells. -/
def CarriesClause (key : String) (text : Option String) (fields : List (String × Json)) : Prop :=
  Json.present? key fields = (text.bind Json.read?).filter fun value => !value.isNull

/-- What stands under the key is the text of the flag, or the truth value that it spells. -/
def CarriesFlag (key : String) (text : Option String) (fields : List (String × Json)) : Prop :=
  match text with
  | none => Json.present? key fields = none
  | some text =>
      Json.present? key fields = some (.text text) ∨
        ∃ value, flagOfText? text = some value ∧ Json.present? key fields = some (.bool value)

/-- What stands under the key is the integer. -/
def CarriesInteger (key : String) (number : Option Int64) (fields : List (String × Json)) : Prop :=
  Json.present? key fields = number.map fun value => .int value.toInt

/-- The fields of a body carry the values of the parameters. Other keys are free. -/
structure Carries (parameters : ListParameters) (fields : List (String × Json)) : Prop where
  scopes : CarriesClause "scopes" parameters.scopes fields
  filters : CarriesClause "filters" parameters.filters fields
  search : CarriesClause "search" parameters.search fields
  sort : CarriesClause "sort" parameters.sort fields
  withTrashed : CarriesFlag "with_trashed" parameters.withTrashed fields
  onlyTrashed : CarriesFlag "only_trashed" parameters.onlyTrashed fields
  limit : CarriesInteger "limit" parameters.limit fields
  page : CarriesInteger "page" parameters.page fields

/-! ## Bodies that carry the same values -/

theorem CarriesClause.clause_eq {α : Type} {key : String} {text : Option String}
    (carries : CarriesClause key text fields) (carriesToo : CarriesClause key text others)
    (absent : α) (read : Json → Validated α) :
    Request.clause key fields absent read = Request.clause key others absent read := by
  rw [Request.clause, Request.clause, carries, carriesToo]

/-- The flag that a text spells, off where there is none. -/
def flagOf (key : String) : Option String → Validated Bool
  | none => .valid false
  | some text => .ofOption (flagOfText? text) [.key key] (.notFlag "flag")

/-- A flag is read from its text, however it is carried. -/
theorem CarriesFlag.requestFlag_eq {key : String} {text : Option String}
    (carries : CarriesFlag key text fields) : requestFlag key fields = flagOf key text := by
  unfold requestFlag
  cases text with
  | none => rw [show Json.present? key fields = none from carries, flagOf]
  | some text =>
      rcases carries with same | ⟨value, spelled, same⟩
      · rw [same, flagOf]
        rfl
      · rw [same, flagOf, spelled]
        rfl

theorem requested?_present? (key : String) (fields : List (String × Json)) :
    ((Json.object fields).field? key).bind Page.requested? =
      (Json.present? key fields).bind Page.requested? := by
  show (fields.lookup key).bind Page.requested? = _
  unfold Json.present?
  cases fields.lookup key with
  | none => rfl
  | some value => cases value <;> rfl

namespace Carries

/-- Bodies that carry the same values are read alike. -/
theorem parse_eq (carries : parameters.Carries fields) (carriesToo : parameters.Carries others)
    (whitelist : Whitelist) (config : Config) :
    parse whitelist config (.object fields) = parse whitelist config (.object others) := by
  have guard : guardDepth config fields = guardDepth config others := by
    rw [guardDepth, guardDepth, carries.filters, carriesToo.filters]
  have flags : trashed fields = trashed others := by
    rw [trashed, trashed, carries.withTrashed.requestFlag_eq, carries.onlyTrashed.requestFlag_eq,
      carriesToo.withTrashed.requestFlag_eq, carriesToo.onlyTrashed.requestFlag_eq]
  have checked : clauses whitelist config fields = clauses whitelist config others := by
    rw [clauses, clauses, flags, carries.scopes.clause_eq carriesToo.scopes,
      carries.filters.clause_eq carriesToo.filters, carries.search.clause_eq carriesToo.search,
      carries.sort.clause_eq carriesToo.sort]
  rw [parse, parse, guard, checked]

/-- Bodies that carry the same values ask for the same page. -/
theorem page_eq (carries : parameters.Carries fields) (carriesToo : parameters.Carries others)
    (defaultLimit : UInt64) (maxLimit : Option UInt64) :
    Page.ofRequest (.object fields) defaultLimit maxLimit =
      Page.ofRequest (.object others) defaultLimit maxLimit := by
  simp only [Page.ofRequest, requested?_present?]
  rw [carries.limit, carriesToo.limit, carries.page, carriesToo.page]

end Carries

/-! ## The body of parameters -/

theorem clause_eq_valid_iff (key : String) (text : Option String) (value : Option Json) :
    clause key text = .valid value ↔
      text.any isMalformed = false ∧ value = text.bind Json.read? := by
  cases text with
  | none =>
      exact ⟨fun valid => ⟨rfl, (Validated.valid.inj valid).symm⟩,
        fun both => congrArg _ both.2.symm⟩
  | some text =>
      simp only [clause, isMalformed, Option.any_some, Option.bind_some]
      cases Json.read? text <;> simp [Validated.ofOption, Validated.reject, Validated.map, eq_comm]

/-- A clause has one violation where it is no JSON text, and none elsewhere. -/
theorem violations_clause (key : String) (text : Option String) :
    (clause key text).violations =
      if text.any isMalformed then [⟨[.key key], .notJson key⟩] else [] := by
  cases text with
  | none => rfl
  | some text =>
      rw [clause, Validated.violations_map, Option.any_some, isMalformed]
      cases read : Json.read? text with
      | none => rw [if_pos Option.isNone_none]; rfl
      | some value => rw [if_neg (by simp)]; rfl

/-- The four clauses side by side. -/
def checkedTexts (parameters : ListParameters) :
    Validated (Option Json × Option Json × Option Json × Option Json) :=
  (clause "scopes" parameters.scopes).both
    ((clause "filters" parameters.filters).both
      ((clause "search" parameters.search).both (clause "sort" parameters.sort)))

theorem violations_checkedTexts (parameters : ListParameters) :
    parameters.checkedTexts.violations =
      parameters.malformedKeys.map fun key => ⟨[.key key], .notJson key⟩ := by
  have one (key : String) (text : Option String) (rest : List (String × Option String)) :
      ((((key, text) :: rest).filter fun entry => entry.2.any isMalformed).map Prod.fst).map
          (fun key => (⟨[.key key], .notJson key⟩ : Violation)) =
        (clause key text).violations ++
          ((rest.filter fun entry => entry.2.any isMalformed).map Prod.fst).map
            fun key => ⟨[.key key], .notJson key⟩ := by
    rw [violations_clause, List.filter_cons]
    split <;> rfl
  rw [checkedTexts, malformedKeys, texts, one, one, one, one]
  simp only [Validated.violations_both]
  rw [List.filter_nil, List.map_nil, List.map_nil, List.append_nil]

/-- The fields of the body that parameters make. -/
def bodyFields (parameters : ListParameters) : List (String × Json) :=
  insert? "scopes" (parameters.scopes.bind Json.read?)
    (insert? "filters" (parameters.filters.bind Json.read?)
      (insert? "search" (parameters.search.bind Json.read?)
        (insert? "sort" (parameters.sort.bind Json.read?)
          (insert? "with_trashed" (parameters.withTrashed.map Json.text)
            (insert? "only_trashed" (parameters.onlyTrashed.map Json.text)
              (insert? "limit" (parameters.limit.map fun value => .int value.toInt)
                (insert? "page" (parameters.page.map fun value => .int value.toInt) [])))))))

/-- Parameters make a body unless some of their clauses are no JSON texts, and then each of
these is told of. -/
theorem toRequest_eq (parameters : ListParameters) :
    parameters.toRequest =
      if parameters.malformedKeys = [] then .ok (.object parameters.bodyFields)
      else
        .error
          (.invalid (parameters.malformedKeys.map fun key => ⟨[.key key], .notJson key⟩)) := by
  have told := parameters.violations_checkedTexts
  unfold toRequest
  rw [← checkedTexts]
  cases checked : parameters.checkedTexts with
  | invalid first others =>
      rw [checked] at told
      have some : parameters.malformedKeys ≠ [] := by
        intro none
        rw [none] at told
        cases told
      rw [if_neg some, ← told]
      rfl
  | valid parts =>
      obtain ⟨scopes, filters, search, sort⟩ := parts
      have none : parameters.malformedKeys = [] := by
        rw [checked] at told
        exact List.map_eq_nil_iff.mp told.symm
      simp only [checkedTexts, Validated.both_eq_valid_iff, clause_eq_valid_iff] at checked
      obtain ⟨⟨_, rfl⟩, ⟨_, rfl⟩, ⟨_, rfl⟩, _, rfl⟩ := checked
      rw [if_pos none]
      rfl

/-- Every key of the body holds what its parameter spells. -/
theorem carries_bodyFields (parameters : ListParameters) :
    parameters.Carries parameters.bodyFields := by
  have text (given : Option String) :
      (given.map Json.text).filter (fun value => !value.isNull) = given.map Json.text := by
    cases given <;> rfl
  have integer (given : Option Int64) :
      (given.map fun value => Json.int value.toInt).filter (fun value => !value.isNull) =
        given.map fun value => Json.int value.toInt := by
    cases given <;> rfl
  have flag {key : String} {given : Option String} {fields : List (String × Json)}
      (held : Json.present? key fields = given.map Json.text) : CarriesFlag key given fields := by
    cases given with
    | none => exact held
    | some text => exact .inl held
  constructor
  case withTrashed =>
    refine flag ?_
    simp (disch := decide) only [Json.present?, bodyFields, lookup_insert?_of_ne,
      lookup_insert?_self, List.lookup_nil, Option.or_none, text]
  case onlyTrashed =>
    refine flag ?_
    simp (disch := decide) only [Json.present?, bodyFields, lookup_insert?_of_ne,
      lookup_insert?_self, List.lookup_nil, Option.or_none, text]
  all_goals
    simp (disch := decide) only [CarriesClause, CarriesInteger, Json.present?, bodyFields,
      lookup_insert?_of_ne, lookup_insert?_self, List.lookup_nil, Option.or_none, integer]

theorem malformedKeys_ne_nil_iff (parameters : ListParameters) :
    parameters.malformedKeys ≠ [] ↔
      ∃ entry ∈ parameters.texts, ∃ text, entry.2 = some text ∧ Json.read? text = none := by
  have malformed (given : Option String) : given.any isMalformed = true ↔
      ∃ text, given = some text ∧ Json.read? text = none := by
    cases given with
    | none =>
        exact ⟨fun impossible => (nomatch impossible),
          fun ⟨_, impossible, _⟩ => (nomatch impossible)⟩
    | some text => simp [isMalformed]
  rw [malformedKeys, ne_eq, List.map_eq_nil_iff, List.filter_eq_nil_iff]
  simp only [malformed, Classical.not_forall, Classical.not_not, exists_prop]

/-- Parameters are turned down exactly when one of their clauses is no JSON text, and with
one violation for each such clause, in their order. Otherwise they make a body that carries
their values, and every body that does is read as this one is, to the same query or with the
same failure, and asks for the same page. -/
theorem toRequest_agrees (parameters : ListParameters) :
    ((∃ failure, parameters.toRequest = .error failure) ↔
      ∃ entry ∈ parameters.texts, ∃ text, entry.2 = some text ∧ Json.read? text = none) ∧
    (∀ failure, parameters.toRequest = .error failure →
      failure.status.code = 422 ∧
        failure.violations = parameters.malformedKeys.map fun key => ⟨[.key key], .notJson key⟩) ∧
    ∀ body, parameters.toRequest = .ok body →
      (∃ fields, body = .object fields ∧ parameters.Carries fields) ∧
      ∀ fields, parameters.Carries fields →
        (∀ whitelist config,
          parse whitelist config body = parse whitelist config (.object fields)) ∧
        ∀ defaultLimit maxLimit,
          Page.ofRequest body defaultLimit maxLimit =
            Page.ofRequest (.object fields) defaultLimit maxLimit := by
  rw [toRequest_eq, ← malformedKeys_ne_nil_iff]
  by_cases sound : parameters.malformedKeys = []
  · rw [if_pos sound]
    refine ⟨⟨fun ⟨_, impossible⟩ => (nomatch impossible), fun malformed => absurd sound malformed⟩,
      fun _ impossible => (nomatch impossible), fun body made => ?_⟩
    cases made
    have carries := parameters.carries_bodyFields
    exact ⟨⟨_, rfl, carries⟩, fun fields carriesToo =>
      ⟨carries.parse_eq carriesToo, carries.page_eq carriesToo⟩⟩
  · rw [if_neg sound]
    refine ⟨⟨fun _ => sound, fun _ => ⟨_, rfl⟩⟩, fun failure refused => ?_,
      fun _ impossible => (nomatch impossible)⟩
    cases refused
    exact ⟨rfl, rfl⟩

/-- Titles in order on the third page, with deleted rows, and a search that is `null`. -/
def titleParameters : ListParameters :=
  { search := some "null"
    sort := some "[\x7b\"field\": \"title\"\x7d]"
    withTrashed := some "YES"
    limit := some 5
    page := some 3 }

/-- A body with the same values, the flag as a truth value, and a key of the host. -/
def titleBodyFields : List (String × Json) :=
  [("limit", .int 5), ("page", .int 3),
    ("sort", .array [.object [("field", .text "title")]]), ("theme", .text "dark"),
    ("with_trashed", .bool true)]

theorem carries_titleBodyFields : titleParameters.Carries titleBodyFields where
  scopes := rfl
  filters := rfl
  search := rfl
  sort := rfl
  withTrashed := .inr ⟨true, rfl, rfl⟩
  onlyTrashed := rfl
  limit := rfl
  page := rfl

/-- Both are read to the same query, or turned down alike, and the page is the third one of
five rows. With filters that are cut short and an empty search, the parameters are told of
both. -/
theorem toRequest_agrees_titleParameters :
    (∃ body, titleParameters.toRequest = .ok body ∧
      (∀ whitelist config,
        parse whitelist config body = parse whitelist config (.object titleBodyFields)) ∧
      Page.ofRequest body 15 none = ⟨3, 5⟩) ∧
    ∃ failure,
      { titleParameters with filters := some "[", search := some "" }.toRequest = .error failure ∧
        failure.status.code = 422 ∧
        failure.violations.map Violation.field = ["filters", "search"] := by
  constructor
  · have made : ∃ body, titleParameters.toRequest = .ok body := ⟨_, rfl⟩
    obtain ⟨body, made⟩ := made
    obtain ⟨read, page⟩ :=
      ((toRequest_agrees titleParameters).2.2 body made).2 _ carries_titleBodyFields
    exact ⟨body, made, read, page 15 none⟩
  · obtain ⟨refused, told, _⟩ :=
      toRequest_agrees { titleParameters with filters := some "[", search := some "" }
    obtain ⟨failure, failed⟩ :=
      refused.mpr ⟨("filters", some "["), .tail _ (.head _), "[", rfl, rfl⟩
    obtain ⟨code, violations⟩ := told failure failed
    refine ⟨failure, failed, code, ?_⟩
    rw [violations]
    rfl

end QueryGate.Request.ListParameters
