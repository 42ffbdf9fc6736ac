import QueryGate.Proofs.Build.Restriction
import QueryGate.Proofs.Request.Places

/-!
# Scopes that cannot take their parameters

A scope asks for its parameters one by one, each by its index and as of some kind, and may
pass on the failure when a parameter is not there or is of another kind. The failure names
the parameter by its path in the request. The path is made of the position that the call has
among the calls of the parsed query, so it is right because reading a body keeps its entries
and their parameters one by one (`calls_of_parse`).

Calls of such scopes fail with the first call that fails (`scopeGroup_eq_error_iff`). Its
failure is that the scope is not registered, or a single violation whose path leads to the
parameter that the scope asked for, or would lead there (`scopeGroup_of_parse`).
-/

set_option autoImplicit false

namespace QueryGate

open Sql (Junction Truth)

/-! ## Asking for parameters -/

/-- What a scope can ask a parameter to be. -/
inductive ParameterKind where
  | text
  | int
  | float
  | bool
  | scalar

namespace ParameterKind

/-- The wording of a kind. -/
def expected : ParameterKind → String
  | text => "a string"
  | int => "an integer"
  | float => "a number"
  | bool => "a boolean"
  | scalar => "a scalar"

/-- Whether a value is of the kind. -/
def admits (json : Json) : ParameterKind → Bool
  | text => (ScopeArguments.text? json).isSome
  | int => (ScopeArguments.int? json).isSome
  | float => (ScopeArguments.float? json).isSome
  | bool => (Request.flag? json).isSome
  | scalar => (Scalar.ofJson? json).isSome

/-- The failure of asking for the parameter of an index, if asking fails. -/
def failure? (arguments : ScopeArguments) (index : Nat) : ParameterKind → Option Failure
  | text => Success.failure? (arguments.text index)
  | int => Success.failure? (arguments.int index)
  | float => Success.failure? (arguments.float index)
  | bool => Success.failure? (arguments.bool index)
  | scalar => Success.failure? (arguments.scalar index)

end ParameterKind

/-- What is wrong with a parameter, where there is one or not, for a reader. -/
def parameterReason? (expected : String) (admitted : Json → Bool) : Option Json → Option Reason
  | none => some (.missing "parameter")
  | some json => if admitted json then none else some (.parameterKind expected)

/-- Asking fails with one violation at the place of the parameter. -/
theorem ScopeArguments.failure?_readAs {α : Type} (arguments : ScopeArguments) (index : Nat)
    (expected : String) (read : Json → Option α) :
    Success.failure? (arguments.readAs index expected read) =
      (parameterReason? expected (fun json => (read json).isSome)
        (arguments.parameter? index)).map (Failure.violation (arguments.place index)) := by
  unfold readAs parameterReason?
  cases arguments.parameter? index with
  | none => rfl
  | some json => cases made : read json <;> simp [made, Success.failure?]

theorem ParameterKind.failure?_eq (kind : ParameterKind) (arguments : ScopeArguments)
    (index : Nat) :
    kind.failure? arguments index =
      (parameterReason? kind.expected kind.admits (arguments.parameter? index)).map
        (Failure.violation (arguments.place index)) := by
  cases kind <;> exact arguments.failure?_readAs index _ _

/-- The scope fails only with the failure of asking for one of its parameters. -/
def Scope.PassesOn (scope : Scope) : Prop :=
  ∀ arguments failure, scope arguments = .error failure →
    ∃ (kind : ParameterKind) (index : Nat), kind.failure? arguments index = some failure

/-- A scope passes on the failure of asking for a parameter, and then those of what it does
with the value. -/
theorem Scope.passesOn_bind {α : Type} {read : ScopeArguments → Except Failure α}
    {next : ScopeArguments → α → Except Failure Sql.Group} (kind : ParameterKind) (index : Nat)
    (asks : ∀ arguments, Success.failure? (read arguments) = kind.failure? arguments index)
    (later : ∀ value, Scope.PassesOn fun arguments => next arguments value) :
    Scope.PassesOn fun arguments => read arguments >>= next arguments := by
  intro arguments failure failed
  rcases (Success.bind_eq_error_iff _ _ _).mp failed with refused | ⟨value, _, failed⟩
  · exact ⟨kind, index, (asks arguments).symm.trans
      ((Success.failure?_eq_some_iff _ _).mpr refused)⟩
  · exact later value arguments failure failed

theorem Scope.passesOn_ok (group : ScopeArguments → Sql.Group) :
    Scope.PassesOn fun arguments => .ok (group arguments) :=
  fun _ _ impossible => (nomatch impossible)

/-! ## The first call that fails -/

section Calls

variable (registry : ScopeRegistry)

theorem scopeGroup_eq_none_iff (calls : List ScopeCall) :
    scopeGroup registry calls = .ok none ↔ calls = [] := by
  constructor
  · intro made
    rw [scopeGroup_eq_mapM, Success.map_eq_ok_iff] at made
    obtain ⟨groups, _, same⟩ := made
    split at same
    · next empty => exact List.isEmpty_iff.mp empty
    · cases same
  · rintro rfl
    rfl

/-- The calls have a conjunction, or none is needed, exactly when each has its condition. -/
theorem exists_scopeGroup_iff (calls : List ScopeCall) :
    (∃ result, scopeGroup registry calls = .ok result) ↔
      ∀ call ∈ calls.zipIdx, ∃ group, callGroup registry call = .ok group := by
  rw [scopeGroup_eq_mapM, ← Success.exists_mapM_iff]
  constructor
  · rintro ⟨_, made⟩
    obtain ⟨groups, each, _⟩ := (Success.map_eq_ok_iff _ _ _).mp made
    exact ⟨groups, each⟩
  · rintro ⟨groups, each⟩
    exact ⟨_, (Success.map_eq_ok_iff _ _ _).mpr ⟨groups, each, rfl⟩⟩

/-- Calls fail with the first that fails, at its position among them. -/
theorem scopeGroup_eq_error_iff (calls : List ScopeCall) (failure : Failure) :
    scopeGroup registry calls = .error failure ↔
      ∃ before call after, calls = before ++ call :: after ∧
        (∀ earlier ∈ before.zipIdx, ∃ group, callGroup registry earlier = .ok group) ∧
        callGroup registry (call, before.length) = .error failure := by
  rw [scopeGroup_eq_mapM, Success.map_eq_error_iff, Success.mapM_eq_error_iff]
  constructor
  · rintro ⟨_, _, _, split, each, failed⟩
    obtain ⟨before, rest, rfl, rfl, here⟩ := List.zipIdx_eq_append_iff.mp split
    obtain ⟨call, after, rfl, rfl, _⟩ := List.zipIdx_eq_cons_iff.mp here.symm
    rw [Nat.zero_add] at failed
    exact ⟨before, call, after, rfl, each, failed⟩
  · rintro ⟨before, call, after, rfl, each, failed⟩
    refine ⟨before.zipIdx, (call, before.length), after.zipIdx (before.length + 1), ?_, each,
      failed⟩
    rw [List.zipIdx_append, List.zipIdx_cons, Nat.zero_add]

end Calls

/-! ## The entries of a body -/

/-- The entries under `scopes` in a body, where there is a list of them. -/
def Json.scopeEntries (body : Json) : List Json :=
  match body.member? "scopes" with
  | some (.array entries) => entries
  | _ => []

/-- The entry holds the name of the call, and its parameters one by one. -/
structure Json.Calls (entry : Json) (call : ScopeCall) : Prop where
  name : entry.member? "name" = some (.text call.name)
  parameters : ∀ index : Nat,
    entry.follow? ["parameters", toString index] = call.parameters[index]?

namespace Request

variable {whitelist : Whitelist} {config : Config} {fields : List (String × Json)}

/-- A key that is not present is missing or holds `null`, which has no members. -/
theorem member?_of_absent {key : String} (absent : Json.present? key fields = none) :
    (Json.object fields).member? key = none ∨ (Json.object fields).member? key = some .null := by
  unfold Json.present? at absent
  show fields.lookup key = none ∨ fields.lookup key = some .null
  cases held : fields.lookup key with
  | none => exact .inl rfl
  | some value =>
      rw [held] at absent
      cases value with
      | null => exact .inr rfl
      | _ => cases absent

theorem calls_of_spellsScope {call : ScopeCall} (spelled : SpellsScope whitelist fields call) :
    (Json.object fields).Calls call where
  name := member?_of_present? spelled.name
  parameters index := by
    have reads := spelled.parameters
    unfold Reads at reads
    rw [Json.follow?]
    cases found : Json.present? "parameters" fields with
    | none =>
        rw [found] at reads
        rw [reads]
        rcases member?_of_absent found with missing | empty
        · rw [missing]
          rfl
        · rw [empty]
          rfl
    | some json =>
        rw [found] at reads
        rw [member?_of_present? found, reads, Option.bind_some, Json.follow?,
          Json.member?_toString]
        cases call.parameters[index]? <;> rfl

/-- Reading a body keeps the entries of the scopes, in their order. -/
theorem calls_of_parse {body : Json} {query : Query}
    (parsed : parse whitelist config body = .ok query) :
    List.Forall₂ Json.Calls body.scopeEntries query.scopes := by
  obtain ⟨_, spelled⟩ := (parse_eq_ok_iff whitelist config body query).mp parsed
  cases spelled with
  | empty => exact .nil
  | @object fields _ request =>
      have reads := request.scopes
      unfold Reads at reads
      unfold Json.scopeEntries
      cases found : Json.present? "scopes" fields with
      | none =>
          rw [found] at reads
          rw [reads]
          rcases member?_of_absent found with missing | empty
          · rw [missing]
            exact .nil
          · rw [empty]
            exact .nil
      | some json =>
          rw [found] at reads
          obtain ⟨items, rfl, entries⟩ := reads
          rw [member?_of_present? found]
          refine entries.imp ?_
          rintro _ call ⟨parts, rfl, scope⟩
          exact calls_of_spellsScope scope

end Request

/-- The path of an entry leads into the entry at its position. -/
theorem Json.follow?_scopeEntry {body entry : Json} {position : Nat}
    (among : body.scopeEntries[position]? = some entry) (names : List String) :
    body.follow? ("scopes" :: toString position :: names) = entry.follow? names := by
  unfold scopeEntries at among
  split at among
  · next entries held =>
      rw [follow?, held, Option.bind_some, follow?, member?_toString, among, Option.bind_some]
  · cases among

/-! ## What a failure says -/

/-- The path of a parameter in a body, name by name. -/
def parameterPath (position index : Nat) : List String :=
  ["scopes", toString position, "parameters", toString index]

/-- The failure is one violation, at the path of a parameter. It says that the parameter is
required where the body has none, and of which kind it must be where the body has one of
another kind. -/
structure BlamesParameter (body : Json) (position index : Nat) (kind : ParameterKind)
    (failure : Failure) : Prop where
  status : failure.status.code = 422
  single : ∃ violation, failure.violations = [violation] ∧
    violation.field = s!"scopes.{position}.parameters.{index}" ∧
    violation.message =
      match body.follow? (parameterPath position index) with
      | none => "The parameter is required"
      | some _ => "The parameter must be " ++ kind.expected
  unfit : ∀ json, body.follow? (parameterPath position index) = some json →
    kind.admits json = false

/-- Why the call at a position fails: its scope is not registered, or the scope asked for a
parameter that it cannot take. -/
inductive CallFails (registry : ScopeRegistry) (body : Json) (position : Nat) (call : ScopeCall)
    (failure : Failure) : Prop where
  | unregistered :
      registry.lookup call.name = none →
      failure = .misconfigured (.unregisteredScope call.name) →
      CallFails registry body position call failure
  | parameter (scope : Scope) (kind : ParameterKind) (index : Nat) :
      registry.lookup call.name = some scope →
      kind.failure? ⟨position, call.name, call.parameters⟩ index = some failure →
      BlamesParameter body position index kind failure →
      CallFails registry body position call failure

theorem ScopeArguments.text_place (arguments : ScopeArguments) (index : Nat) :
    (arguments.place index).text = s!"scopes.{arguments.position}.parameters.{index}" := by
  show _ = "scopes." ++ toString arguments.position ++ ".parameters." ++ toString index
  rw [← String.toList_inj]
  simp [place, Place.text, Step.text]

/-- Asking in vain blames the parameter of the body that was asked for. -/
theorem blamesParameter_of_failure? {body entry : Json} {call : ScopeCall} {position : Nat}
    (among : body.scopeEntries[position]? = some entry) (calls : entry.Calls call)
    {kind : ParameterKind} {index : Nat} {failure : Failure}
    (failed : kind.failure? ⟨position, call.name, call.parameters⟩ index = some failure) :
    BlamesParameter body position index kind failure := by
  have found : body.follow? (parameterPath position index) = call.parameters[index]? :=
    (Json.follow?_scopeEntry among _).trans (calls.parameters index)
  rw [kind.failure?_eq] at failed
  obtain ⟨reason, unmet, rfl⟩ := Option.map_eq_some_iff.mp failed
  have asked : parameterReason? kind.expected kind.admits call.parameters[index]? = some reason :=
    unmet
  refine ⟨rfl, ⟨_, rfl, ScopeArguments.text_place _ index, ?_⟩, fun json held => ?_⟩
  · rw [found]
    cases held : call.parameters[index]? with
    | none =>
        rw [held] at asked
        cases asked
        rfl
    | some json =>
        rw [held, parameterReason?] at asked
        split at asked
        · cases asked
        · cases asked
          rfl
  · rw [← found, held, parameterReason?] at asked
    split at asked
    · cases asked
    · next refused => exact Bool.eq_false_iff.mpr refused

/-- Calls of an accepted body are answered in the order of its entries. There is no condition
exactly where there is no entry, and one that is as true as all of the conditions of the scopes
exactly where each scope gives its condition. Otherwise the failure is that of the first call
that fails: the entry at its position in the body holds its name, and the scope of that name is
not registered, or what it asked for at an index is not in the entry or is of another kind. -/
theorem scopeGroup_of_parse {whitelist : Whitelist} {config : Config} {body : Json}
    {query : Query} {registry : ScopeRegistry}
    (parsed : Request.parse whitelist config body = .ok query)
    (passesOn : ∀ name scope, registry.lookup name = some scope → Scope.PassesOn scope) :
    List.Forall₂ Json.Calls body.scopeEntries query.scopes ∧
    (scopeGroup registry query.scopes = .ok none ↔ body.scopeEntries = []) ∧
    ((∃ group, scopeGroup registry query.scopes = .ok (some group)) ↔
      body.scopeEntries ≠ [] ∧
        ∀ call ∈ query.scopes.zipIdx, ∃ group, callGroup registry call = .ok group) ∧
    (∀ group, scopeGroup registry query.scopes = .ok (some group) →
      ∀ atom : Sql.Condition → Truth,
        group.truth atom =
          Junction.all.combineAll
            (query.scopes.zipIdx.map fun call => groupTruth atom (callGroup registry call))) ∧
    ∀ failure, scopeGroup registry query.scopes = .error failure →
      ∃ before call after, query.scopes = before ++ call :: after ∧
        (∀ earlier ∈ before.zipIdx, ∃ group, callGroup registry earlier = .ok group) ∧
        callGroup registry (call, before.length) = .error failure ∧
        body.follow? ["scopes", toString before.length, "name"] = some (.text call.name) ∧
        CallFails registry body before.length call failure := by
  have entries := Request.calls_of_parse parsed
  have bare : query.scopes = [] ↔ body.scopeEntries = [] := by
    rw [← List.length_eq_zero_iff, ← List.length_eq_zero_iff, entries.length_eq]
  refine ⟨entries, (scopeGroup_eq_none_iff registry _).trans bare, ?_, ?_, ?_⟩
  · rw [← exists_scopeGroup_iff, ne_eq, ← bare, ← scopeGroup_eq_none_iff registry]
    constructor
    · rintro ⟨group, made⟩
      exact ⟨by rw [made]; exact fun impossible => (nomatch impossible), some group, made⟩
    · rintro ⟨some, result, made⟩
      cases result with
      | none => exact absurd made some
      | some group => exact ⟨group, made⟩
  · intro group made atom
    exact (truth_scopeGroup atom made).2
  · intro failure failed
    obtain ⟨before, call, after, split, each, here⟩ :=
      (scopeGroup_eq_error_iff registry _ failure).mp failed
    have inside : before.length < body.scopeEntries.length := by
      rw [entries.length_eq, split, List.length_append, List.length_cons]
      omega
    have calls : (body.scopeEntries[before.length]).Calls call := by
      have paired := entries.get inside (entries.length_eq ▸ inside)
      simpa [split] using paired
    have among := List.getElem?_eq_getElem inside
    refine ⟨before, call, after, split, each, here, ?_, ?_⟩
    · rw [Json.follow?_scopeEntry among, Json.follow?, calls.name]
      rfl
    · rw [callGroup] at here
      cases registered : registry.lookup call.name with
      | none =>
          rw [registered] at here
          cases here
          exact .unregistered registered rfl
      | some scope =>
          rw [registered] at here
          obtain ⟨kind, index, asked⟩ := passesOn _ scope registered _ failure here
          exact .parameter scope kind index registered asked
            (blamesParameter_of_failure? among calls asked)

/-- A scope that takes a text and one that takes two integers. -/
def rankedScopes : ScopeRegistry :=
  [("named", fun arguments => do
      let name ← arguments.text 0
      return .one (.compare .equal (.column ⟨"posts", "name"⟩) (.value (.text name)))),
    ("ranked", fun arguments => do
      let least ← arguments.int 0
      let greatest ← arguments.int 1
      return ⟨.all,
        [.compare .atLeast (.column ⟨"posts", "rank"⟩) (.value (.int least.toInt)),
          .compare .atMost (.column ⟨"posts", "rank"⟩) (.value (.int greatest.toInt))]⟩)]

theorem passesOn_rankedScopes (name : String) (scope : Scope)
    (registered : rankedScopes.lookup name = some scope) : Scope.PassesOn scope := by
  unfold rankedScopes at registered
  rw [List.lookup_cons, List.lookup_cons] at registered
  split at registered
  · cases registered
    exact Scope.passesOn_bind .text 0 (fun _ => rfl) fun _ => Scope.passesOn_ok _
  · split at registered
    · cases registered
      exact Scope.passesOn_bind .int 0 (fun _ => rfl) fun _ =>
        Scope.passesOn_bind .int 1 (fun _ => rfl) fun _ => Scope.passesOn_ok _
    · cases registered

/-- The call of the second scope lacks the second of its parameters. -/
def rankedBody : Json :=
  .object [("scopes", .array
    [.object [("name", .text "named"), ("parameters", .array [.text "a", .null])],
      .object [("name", .text "ranked"), ("parameters", .array [.int 1])]])]

/-- The body is accepted, and the path of the violation leads to the missing parameter. -/
theorem scopeGroup_of_parse_rankedBody :
    ∃ query failure,
      Request.parse { exposed := ["named", "ranked"] } {} rankedBody = .ok query ∧
      scopeGroup rankedScopes query.scopes = .error failure ∧
      failure.violations.map Violation.field = ["scopes.1.parameters.1"] ∧
      ∃ position call,
        rankedBody.follow? ["scopes", toString position, "name"] = some (.text call.name) ∧
        CallFails rankedScopes rankedBody position call failure := by
  have refused : ∃ query failure,
      Request.parse { exposed := ["named", "ranked"] } {} rankedBody = .ok query ∧
      scopeGroup rankedScopes query.scopes = .error failure ∧
      failure.violations.map Violation.field = ["scopes.1.parameters.1"] :=
    ⟨_, _, rfl, rfl, by decide⟩
  obtain ⟨query, failure, parsed, failed, path⟩ := refused
  obtain ⟨_, _, _, _, fails⟩ := scopeGroup_of_parse parsed passesOn_rankedScopes
  obtain ⟨before, call, _, _, _, _, named, why⟩ := fails failure failed
  exact ⟨query, failure, parsed, failed, path, before.length, call, named, why⟩

end QueryGate
