import QueryGate.Proofs.Build.Progress
import QueryGate.Proofs.Request.Depth

/-!
# What a refusal discloses

A client is told of a resource that cannot serve its request in one fixed sentence,
whatever is wrong and wherever it is found (`responses_of_faults`). Only a scope of the
host can put other words in its place: along relation paths, in the conditions of filters
and searches, in orders and at scopes that are not registered, the library states no
cause of that kind (`Unstated`), and a body that cannot be read is not blamed on the
resource at all.
-/

set_option autoImplicit false

namespace QueryGate

open Success (FailsOnly)

/-! ## Causes stated by a host -/

/-- Whether a misconfiguration is stated by a host in its own words. -/
def Misconfiguration.isStated : Misconfiguration → Bool
  | stated _ => true
  | announced _ _ => true
  | _ => false

theorem Misconfiguration.message_of_not_isStated {cause : Misconfiguration}
    (unstated : cause.isStated = false) : cause.message = unservedMessage := by
  cases cause <;> first | rfl | cases unstated

namespace Failure

/-- The failure is no cause stated by a host. -/
def Unstated (failure : Failure) : Prop :=
  ∀ cause, failure = .misconfigured cause → cause.isStated = false

theorem unstated_misconfigured {cause : Misconfiguration} (unstated : cause.isStated = false) :
    (misconfigured cause).Unstated := by
  intro other same
  cases same
  exact unstated

theorem unstated_violation (place : Place) (reason : Reason) : (violation place reason).Unstated :=
  fun _ impossible => (nomatch impossible)

/-- The failures differ at most in what is wrong inside. -/
inductive SameButDetail : Failure → Failure → Prop where
  | unreadable (message : String) : SameButDetail (.unreadable message) (.unreadable message)
  | invalid (violations : List Violation) :
      SameButDetail (.invalid violations) (.invalid violations)
  | misconfigured {cause other : Misconfiguration} (told : cause.message = other.message) :
      SameButDetail (.misconfigured cause) (.misconfigured other)
  | internal (message : String) (detail other : Option String) :
      SameButDetail (.internal message detail) (.internal message other)

theorem status_response (failure : Failure) : failure.response.status = failure.status := by
  cases failure <;> rfl

/-- The message does not depend on what is wrong inside. -/
theorem SameButDetail.message_eq {failure other : Failure} (same : SameButDetail failure other) :
    failure.message = other.message := by
  cases same with
  | misconfigured told => exact told
  | unreadable message => rfl
  | invalid violations => rfl
  | internal message detail other => rfl

/-- The response does not depend on what is wrong inside. -/
theorem SameButDetail.response_eq {failure other : Failure} (same : SameButDetail failure other) :
    failure.response = other.response := by
  cases same with
  | misconfigured told => exact congrArg (Response.mk .serverError · none) told
  | unreadable message => rfl
  | invalid violations => rfl
  | internal message detail other => rfl

end Failure

/-! ## Relation paths -/

theorem Catalog.unstated_hop (catalog : Catalog) (root parent : Model) (name : String) :
    FailsOnly Failure.Unstated (catalog.hop root parent name) := by
  unfold hop
  split
  · exact .error (Failure.unstated_misconfigured rfl)
  · refine FailsOnly.map ?_ _
    unfold related
    split
    · exact .ok none
    · split
      · exact .ok _
      · exact .error (Failure.unstated_misconfigured rfl)

theorem Catalog.unstated_walk (catalog : Catalog) (root : Model) (path : String)
    (model : Option Model) (names : List String) :
    FailsOnly Failure.Unstated (catalog.walk root path model names) := by
  induction names generalizing model with
  | nil => exact .ok []
  | cons name names ih =>
      cases model with
      | none => exact .error (Failure.unstated_misconfigured rfl)
      | some parent =>
          refine (catalog.unstated_hop root parent name).bind fun hop => ?_
          exact (ih hop.related).bind fun hops => .ok _

section Conditions

variable {inner : String → Model → Except Failure Sql.Group}
  (unstated : ∀ name related, FailsOnly Failure.Unstated (inner name related))

include unstated

theorem unstated_relatedExists (hops : List Hop) (parentAlias path : String) :
    FailsOnly Failure.Unstated (relatedExists inner hops parentAlias path) := by
  induction hops generalizing parentAlias path with
  | nil => exact .error (Failure.unstated_misconfigured rfl)
  | cons hop rest ih =>
      rw [relatedExists_cons]
      cases hop.relation.joinKeys? with
      | none => exact .error (Failure.unstated_misconfigured rfl)
      | some keys =>
          cases hop.related with
          | none => exact .error (Failure.unstated_misconfigured rfl)
          | some related =>
              refine FailsOnly.map ?_ _
              cases rest with
              | nil => exact unstated _ _
              | cons next rest => exact (ih _ _).map _

theorem Context.unstated_pathExists (context : Context) (path : String) :
    FailsOnly Failure.Unstated (context.pathExists path inner) :=
  (context.catalog.unstated_walk _ _ _ _).bind fun hops => unstated_relatedExists unstated hops _ _

end Conditions

/-! ## The parts of the stages -/

theorem unstated_predicate (backend : Sql.Backend) (target : Target) (test : FieldTest) :
    FailsOnly Failure.Unstated (predicate backend target test) := by
  unfold predicate
  split
  · split
    · exact .ok _
    · exact .ok _
    · exact .error (Failure.unstated_violation _ _)
  · split <;> exact .ok _
  · split
    · exact .ok _
    · exact .error (Failure.unstated_violation _ _)

theorem unstated_testGroup (context : Context) (test : FieldTest) :
    FailsOnly Failure.Unstated (testGroup context test) := by
  unfold testGroup
  dsimp only
  split
  · exact unstated_predicate _ _ _
  · split
    · split
      · exact .error (Failure.unstated_misconfigured rfl)
      · exact unstated_predicate _ _ _
    · exact (context.unstated_pathExists (fun _ _ => unstated_predicate _ _ _) _).map _

theorem unstated_patternCondition (context : Context) (term : SearchTerm) (pattern : String) :
    FailsOnly Failure.Unstated (patternCondition context term pattern).result := by
  unfold patternCondition
  dsimp only
  split
  · exact .ok none
  · split
    · exact .ok _
    · split
      · split
        · exact .ok none
        · exact .ok _
      · exact (context.unstated_pathExists (fun _ _ => .ok _) _).map _

theorem SortPlan.unstated_addKey (context : Context) (plan : SortPlan) (key : SortKey) :
    FailsOnly Failure.Unstated (plan.addKey context key) := by
  unfold addKey
  dsimp only
  split
  · exact .ok _
  · split
    · split <;> exact .ok _
    · exact (context.catalog.unstated_walk _ _ _ _).bind fun _ => .ok _

theorem unstated_of_callGroup {registry : ScopeRegistry} {call : ScopeCall × Nat}
    {failure : Failure} (fails : callGroup registry call = .error failure) :
    failure.Unstated ∨ ∃ scope, registry.lookup call.1.name = some scope ∧
      scope ⟨call.2, call.1.name, call.1.parameters⟩ = .error failure := by
  unfold callGroup at fails
  cases found : registry.lookup call.1.name with
  | none =>
      rw [found] at fails
      cases fails
      exact .inl (Failure.unstated_misconfigured rfl)
  | some scope =>
      rw [found] at fails
      exact .inr ⟨scope, rfl, fails⟩

theorem unstated_of_first {α β : Type} {parts : List α} {result : α → Except Failure β}
    (each : ∀ part, FailsOnly Failure.Unstated (result part)) {failure : Failure}
    (first : (parts.map fun part => Success.failure? (result part)).findSome? id =
      some failure) : failure.Unstated := by
  obtain ⟨outcome, member, fails⟩ := List.exists_of_findSome?_eq_some first
  obtain ⟨part, _, rfl⟩ := List.mem_map.mp member
  exact each part failure ((Success.failure?_eq_some_iff _ _).mp fails)

/-! ## Builds -/

namespace Builder

/-- A scope of the host fails with the failure, and the calls before it have their
groups. -/
def FailsInScope (builder : Builder) (query : Query) (failure : Failure) : Prop :=
  ∃ before call after scope, query.scopes = before ++ call :: after ∧
    (∀ earlier ∈ before.zipIdx,
      ∃ group, callGroup builder.resource.scopes earlier = .ok group) ∧
    builder.resource.scopes.lookup call.name = some scope ∧
    scope ⟨before.length, call.name, call.parameters⟩ = .error failure

variable {builder : Builder} {query : Query}

/-- The stages of a build state no cause, except through a scope of the host. -/
theorem unstated_of_stageFailure? {stage : ListStage} {failure : Failure}
    (fails : builder.stageFailure? query stage = some failure) :
    failure.Unstated ∨ builder.FailsInScope query failure := by
  rw [stageFailure?, partFailures.eq_def] at fails
  cases stage with
  | scopes =>
      rw [List.findSome?_map, List.findSome?_eq_some_iff] at fails
      obtain ⟨before, ⟨call, position⟩, after, split, failed, passes⟩ := fails
      obtain ⟨calls, others, whole, rfl, rest⟩ := List.zipIdx_eq_append_iff.mp split
      obtain ⟨_, later, rfl, same, _⟩ := List.zipIdx_eq_cons_iff.mp rest.symm
      cases same
      have called := (Success.failure?_eq_some_iff _ _).mp failed
      rcases unstated_of_callGroup called with unstated | ⟨scope, registered, refused⟩
      · exact .inl unstated
      · refine .inr ⟨calls, call, later, scope, whole, ?_, registered, ?_⟩
        · exact fun earlier member => (Success.failure?_eq_none_iff _).mp (passes earlier member)
        · rw [Nat.zero_add] at refused
          exact refused
  | filters => exact .inl (unstated_of_first (unstated_testGroup builder.context) fails)
  | search =>
      cases asked : query.search with
      | none =>
          rw [asked] at fails
          cases fails
      | some term =>
          rw [asked, Option.toList_some, List.flatMap_singleton] at fails
          exact .inl (unstated_of_first (unstated_patternCondition builder.context term) fails)
  | sorting =>
      exact .inl (unstated_of_first (SortPlan.unstated_addKey builder.context {}) fails)

/-- A build states no cause, except through a scope of the host. -/
theorem unstated_of_build {operation : Operation} {select : Sql.Select} {failure : Failure}
    (fails : (builder.build query operation select).result = .error failure) :
    failure.Unstated ∨ builder.FailsInScope query failure := by
  rw [← Success.failure?_eq_some_iff, failure?_build] at fails
  obtain ⟨stage, _, found⟩ := List.exists_of_findSome?_eq_some fails
  exact unstated_of_stageFailure? found

end Builder

/-- A body that cannot be read is not blamed on the resource. -/
theorem Request.unstated_parse (whitelist : Whitelist) (config : Config) (body : Json) :
    FailsOnly Failure.Unstated (parse whitelist config body) := by
  have read (fields : List (String × Json)) :
      FailsOnly Failure.Unstated (accept (clauses whitelist config fields)) := by
    cases clauses whitelist config fields with
    | valid query => exact .ok query
    | invalid first others => exact .error fun _ impossible => (nomatch impossible)
  cases body with
  | null => exact .ok _
  | object fields =>
      refine FailsOnly.bind ?_ fun _ => read fields
      rw [guardDepth_eq]
      split
      · exact .error (Failure.unstated_violation _ _)
      · exact .ok ()
  | _ => exact .error fun _ impossible => (nomatch impossible)

/-- A request to a resource: its body, the operation that it is for, and the statement of
the host. -/
structure Attempt where
  builder : Builder
  body : Json
  operation : Operation
  select : Sql.Select

namespace Attempt

/-- What comes of the request. -/
def result (attempt : Attempt) : Except Failure Sql.Select :=
  (attempt.builder.serve attempt.body attempt.operation attempt.select).result

/-- The resource cannot serve the request, and it is not a scope of the host that says
so. -/
structure FindsFault (attempt : Attempt) (cause : Misconfiguration) : Prop where
  fails : attempt.result = .error (.misconfigured cause)
  finds : ∀ query, attempt.builder.parse attempt.body = .ok query →
    ¬ attempt.builder.FailsInScope query (.misconfigured cause)

/-- A fault that no scope of the host states is none of the causes that a host states. -/
theorem FindsFault.not_isStated {attempt : Attempt} {cause : Misconfiguration}
    (finds : attempt.FindsFault cause) : cause.isStated = false := by
  have fails := finds.fails
  rw [result, Builder.serve, Outcome.result_bind, Outcome.result_ofResult] at fails
  rcases (Success.bind_eq_error_iff _ _ _).mp fails with refused | ⟨query, parsed, failed⟩
  · exact Request.unstated_parse _ _ _ _ refused cause rfl
  · rcases Builder.unstated_of_build failed with unstated | stated
    · exact unstated cause rfl
    · exact absurd stated (finds.finds query parsed)

end Attempt

/-- Any two requests that are not served for faults of their resources, and not through a
scope of a host, are refused alike, whatever the resources, the bodies, the operations and
the faults: with one status, one message and one response, which says nothing about the
fault. Only the log is told. Nor does any response depend on what is wrong inside: failures
that differ in nothing else are told alike. -/
theorem responses_of_faults :
    (∀ (first second : Attempt) (cause other : Misconfiguration),
      first.FindsFault cause → second.FindsFault other →
        (Failure.misconfigured cause).status.code = 500 ∧
        (Failure.misconfigured cause).message = (Failure.misconfigured other).message ∧
        (Failure.misconfigured cause).response = (Failure.misconfigured other).response ∧
        (Failure.misconfigured cause).response = ⟨.serverError, unservedMessage, none⟩ ∧
        (Event.refused (.misconfigured cause)).fields = [("details", cause.detail)]) ∧
    ∀ failure other : Failure, failure.SameButDetail other →
      failure.status = other.status ∧ failure.message = other.message ∧
        failure.response = other.response := by
  refine ⟨?_, ?_⟩
  · intro first second cause other finds findsToo
    have told := Misconfiguration.message_of_not_isStated finds.not_isStated
    have toldToo := Misconfiguration.message_of_not_isStated findsToo.not_isStated
    have same : (Failure.misconfigured cause).SameButDetail (.misconfigured other) :=
      .misconfigured (told.trans toldToo.symm)
    refine ⟨rfl, same.message_eq, same.response_eq, ?_, rfl⟩
    exact congrArg (Response.mk .serverError · none) told
  · intro failure other same
    have status := congrArg Response.status same.response_eq
    rw [failure.status_response, other.status_response] at status
    exact ⟨status, same.message_eq, same.response_eq⟩

/-- A listing of posts with a test on their owners, which the model does not relate to
posts. -/
def ownerAttempt : Attempt :=
  { builder :=
      { resource := { model := { table := "posts" }, whitelist := { filterable := ["owner.*"] } }
        backend := .sqlite }
    body :=
      .object [("filters", .array [.object [("field", .text "owner.name"),
        ("operator", .text "="), ("value", .text "Ada")]])]
    operation := .index
    select := { outputs := [.allOf "posts"], source := ⟨"posts", none⟩ } }

/-- A search of tags with a scope that is exposed and not registered. -/
def popularAttempt : Attempt :=
  { builder :=
      { resource := { model := { table := "tags" }, whitelist := { exposed := ["popular"] } }
        backend := .postgres }
    body := .object [("scopes", .array [.object [("name", .text "popular")]])]
    operation := .search
    select := { outputs := [.allOf "tags"], source := ⟨"tags", none⟩ } }

/-- A client cannot tell the missing relation from the missing scope. -/
theorem responses_of_faults_owner_popular :
    ownerAttempt.FindsFault (.unknownRelation "owner" "posts") ∧
    popularAttempt.FindsFault (.unregisteredScope "popular") ∧
    (Failure.misconfigured (.unknownRelation "owner" "posts")).response =
      (Failure.misconfigured (.unregisteredScope "popular")).response ∧
    (Failure.internal "Try again" (some "no connection")).response =
      (Failure.internal "Try again" none).response := by
  have owner : ownerAttempt.FindsFault (.unknownRelation "owner" "posts") :=
    ⟨rfl, fun _ _ ⟨_, _, _, _, _, _, registered, _⟩ => nomatch registered⟩
  have popular : popularAttempt.FindsFault (.unregisteredScope "popular") :=
    ⟨rfl, fun _ _ ⟨_, _, _, _, _, _, registered, _⟩ => nomatch registered⟩
  obtain ⟨_, _, alike, _⟩ := responses_of_faults.1 _ _ _ _ owner popular
  obtain ⟨_, _, internal⟩ := responses_of_faults.2 _ _ (.internal "Try again" _ _)
  exact ⟨owner, popular, alike, internal⟩

end QueryGate
