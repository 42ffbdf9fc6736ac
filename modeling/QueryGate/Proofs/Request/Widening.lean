import QueryGate.Proofs.Request.Depth
import QueryGate.Proofs.Whitelist.Language

/-!
# Wider whitelists

A whitelist is asked only whether it admits a name, and a name that it does not admit is
one violation more. So a wider whitelist lets through whatever a narrower one does, and
with the same outcome, and of what the narrower one finds fault with it finds fault with
a part (`parse_within`).

A check is compared with the laxer check of the same part: what the strict one lets
through the lax one lets through alike, and the violations of the lax one are among those
of the strict one, in their order. This is kept by every way of putting checks together.
For filter lists it goes by induction on the JSON value, as the acceptance of requests
does.
-/

set_option autoImplicit false

namespace QueryGate

/-! ## Whitelists -/

/-- The patterns for filters, orders and scopes are all among those of another whitelist.
What can be searched is not asked for by requests. -/
structure Whitelist.Within (narrow wide : Whitelist) : Prop where
  filterable : narrow.filterable ⊆ wide.filterable
  sortable : narrow.sortable ⊆ wide.sortable
  exposed : narrow.exposed ⊆ wide.exposed

/-! ## Lax checks -/

namespace Validated

variable {α β : Type}

/-- The lax check lets through what the strict one does, with the same value, and finds
no violation that the strict one does not find. -/
structure Relaxes (strict lax : Validated α) : Prop where
  valid : ∀ value, strict = .valid value → lax = .valid value
  violations : lax.violations.Sublist strict.violations

namespace Relaxes

variable {strict lax : Validated α} {others laxOthers : Validated β}

theorem refl (checked : Validated α) : Relaxes checked checked :=
  ⟨fun _ same => same, .refl _⟩

theorem map (relaxes : Relaxes strict lax) (function : α → β) :
    Relaxes (strict.map function) (lax.map function) where
  valid value found := by
    obtain ⟨inner, here, same⟩ := (map_eq_valid_iff _ _ _).mp found
    exact (map_eq_valid_iff _ _ _).mpr ⟨inner, relaxes.valid inner here, same⟩
  violations := by
    rw [violations_map, violations_map]
    exact relaxes.violations

theorem both (relaxes : Relaxes strict lax) (relaxesOthers : Relaxes others laxOthers) :
    Relaxes (strict.both others) (lax.both laxOthers) where
  valid parts found := by
    obtain ⟨first, second⟩ := (both_eq_valid_iff _ _ _).mp found
    exact (both_eq_valid_iff _ _ _).mpr
      ⟨relaxes.valid _ first, relaxesOthers.valid _ second⟩
  violations := by
    rw [violations_both, violations_both]
    exact relaxes.violations.append relaxesOthers.violations

/-- What follows the same check is as lax as it is for each value. -/
theorem andThen (checked : Validated α) {next laxNext : α → Validated β}
    (relaxes : ∀ value, Relaxes (next value) (laxNext value)) :
    Relaxes (checked.andThen next) (checked.andThen laxNext) := by
  cases checked with
  | valid value => exact relaxes value
  | invalid first others => exact refl (.invalid first others)

/-- A name that is admitted by more is refused by less. -/
theorem admitted {admits laxAdmits : α → Bool} {value : α}
    (wider : admits value = true → laxAdmits value = true) (place : Place) (reason : Reason) :
    Relaxes (if admits value then .valid value else .reject place reason)
      (if laxAdmits value then .valid value else .reject place reason) := by
  by_cases here : admits value = true
  · rw [if_pos here, if_pos (wider here)]
    exact refl _
  · rw [if_neg here]
    refine ⟨fun _ impossible => (nomatch impossible), ?_⟩
    split
    · exact List.nil_sublist _
    · exact .refl _

/-- A list is as lax as the checks of its items are. -/
theorem all_mapIdx {γ : Type} {check laxCheck : Nat → γ → Validated α}
    (relaxes : ∀ position item, Relaxes (check position item) (laxCheck position item))
    (items : List γ) :
    Relaxes (Validated.all (items.mapIdx check)) (Validated.all (items.mapIdx laxCheck)) := by
  induction items generalizing check laxCheck with
  | nil => exact refl _
  | cons item items ih =>
      rw [List.mapIdx_cons, List.mapIdx_cons, Validated.all, Validated.all]
      exact ((relaxes 0 item).both (ih fun position => relaxes (position + 1))).map _

end Relaxes

end Validated

namespace Request

open Validated (Relaxes)

variable {narrow wide : Whitelist}

/-! ## Filters -/

theorem relaxes_filterField (within : narrow.Within wide) (place : Place)
    (fields : List (String × Json)) :
    Relaxes (filterField narrow place fields) (filterField wide place fields) :=
  .andThen _ fun _ => .admitted (isWhitelisted_mono within.filterable) _ _

theorem relaxes_fieldBeside (within : narrow.Within wide) (place : Place)
    (fields : List (String × Json)) :
    Relaxes (fieldBeside narrow place fields) (fieldBeside wide place fields) := by
  unfold fieldBeside
  cases Json.present? "field" fields with
  | none => exact .refl _
  | some _ => exact (relaxes_filterField within place fields).map _

theorem relaxes_leaf (within : narrow.Within wide) (place : Place)
    (fields : List (String × Json)) :
    Relaxes (leaf narrow place fields) (leaf wide place fields) := by
  have field := relaxes_filterField within place fields
  exact (Relaxes.both (.refl _) (field.both (.refl _))).map _

theorem relaxes_group (within : narrow.Within wide) (place : Place)
    (fields : List (String × Json)) {nested laxNested : Validated (List Filter)}
    (relaxes : Relaxes nested laxNested) :
    Relaxes (group narrow place fields nested) (group wide place fields laxNested) := by
  have beside := relaxes_fieldBeside within place fields
  exact (Relaxes.both (.refl _) (beside.both relaxes)).map _

theorem relaxes_filterItems {items : List Json}
    (each : ∀ item ∈ items, ∀ place,
      Relaxes (filterNode narrow place item) (filterNode wide place item))
    (place : Place) (position : Nat) :
    Relaxes (filterItems narrow place position items) (filterItems wide place position items) := by
  induction items generalizing position with
  | nil =>
      rw [filterItems, filterItems]
      exact .refl _
  | cons item items ih =>
      obtain ⟨here, later⟩ := List.forall_mem_cons.mp each
      rw [filterItems, filterItems]
      exact ((here _).both (ih later (position + 1))).map _

/-- Nodes and lists of nodes at once, as in the acceptance of filters. -/
theorem relaxes_filters (within : narrow.Within wide) (json : Json) :
    (∀ place, Relaxes (filterNode narrow place json) (filterNode wide place json)) ∧
      ∀ place, Relaxes (filterList narrow place json) (filterList wide place json) := by
  induction json using Json.members_induction with
  | single json bare =>
      constructor
      · intro place
        rw [filterNode, filterNode]
        · exact .refl _
        all_goals
          rintro fields rfl
          cases bare
      · intro place
        rw [filterList, filterList]
        · exact .refl _
        all_goals
          rintro items rfl
          cases bare
  | array items ih =>
      refine ⟨fun place => .refl _, fun place => ?_⟩
      rw [filterList, filterList]
      exact relaxes_filterItems (fun item member => (ih item member).1) place 0
  | object fields ih =>
      refine ⟨fun place => ?_, fun place => .refl _⟩
      rw [filterNode, filterNode, nestedFilters_eq, nestedFilters_eq]
      cases found : Json.present? "nested" fields with
      | none => exact relaxes_leaf within place fields
      | some json =>
          have nested := (ih (_, json) (mem_of_present? found)).2 (place ++ [.key "nested"])
          exact relaxes_group within place fields nested

/-! ## The other clauses -/

theorem relaxes_entries {α : Type} (key entryName : String)
    {read laxRead : Place → List (String × Json) → Validated α}
    (relaxes : ∀ place fields, Relaxes (read place fields) (laxRead place fields)) (json : Json) :
    Relaxes (entries key entryName read json) (entries key entryName laxRead json) := by
  cases json with
  | array items =>
      refine .all_mapIdx (fun position item => ?_) items
      cases item with
      | object fields => exact relaxes _ fields
      | _ => exact .refl _
  | _ => exact .refl _

theorem relaxes_scopes (within : narrow.Within wide) (json : Json) :
    Relaxes (scopes narrow json) (scopes wide json) := by
  refine relaxes_entries "scopes" "scope" (fun place fields => ?_) json
  have name : Relaxes (scopeName narrow place fields) (scopeName wide place fields) :=
    .andThen _ fun _ => .admitted (isWhitelisted_mono within.exposed) _ _
  exact (name.both (.refl _)).map _

theorem relaxes_sorting (within : narrow.Within wide) (json : Json) :
    Relaxes (sorting narrow json) (sorting wide json) := by
  refine relaxes_entries "sort" "sort" (fun place fields => ?_) json
  have field : Relaxes (sortField narrow place fields) (sortField wide place fields) :=
    .andThen _ fun _ => .admitted (isWhitelisted_mono within.sortable) _ _
  exact (field.both (.refl _)).map _

/-! ## Bodies -/

theorem relaxes_clause {α : Type} (key : String) (fields : List (String × Json)) (absent : α)
    {read laxRead : Json → Validated α} (relaxes : ∀ json, Relaxes (read json) (laxRead json)) :
    Relaxes (clause key fields absent read) (clause key fields absent laxRead) := by
  unfold clause
  cases Json.present? key fields with
  | none => exact .refl _
  | some json => exact relaxes json

/-- Of the settings only the regard of case in searches counts among the clauses. -/
theorem search_congr {config other : Config}
    (sameCase : other.caseSensitiveSearch = config.caseSensitiveSearch) :
    search other = search config := by
  funext json
  cases json with
  | object fields => simp only [search, searchCase, sameCase]
  | _ => rfl

theorem relaxes_clauses (within : narrow.Within wide) {config roomy : Config}
    (sameCase : roomy.caseSensitiveSearch = config.caseSensitiveSearch)
    (fields : List (String × Json)) :
    Relaxes (clauses narrow config fields) (clauses wide roomy fields) := by
  have filters := fun json => (relaxes_filters within json).2 [.key "filters"]
  unfold clauses
  rw [search_congr sameCase]
  refine .map (.both ?_ (.both ?_ (.both (.refl _) (.both ?_ (.refl _))))) _
  · exact relaxes_clause "scopes" fields [] (relaxes_scopes within)
  · exact relaxes_clause "filters" fields [] filters
  · exact relaxes_clause "sort" fields [] (relaxes_sorting within)

/-- The violations that the reading of a body reports, none when it makes a query. -/
def reported : Except Failure Query → List Violation
  | .ok _ => []
  | .error failure => failure.violations

/-- A lax check reports nothing exactly when it lets the part through. -/
theorem reported_accept (checked : Validated Query) :
    reported (accept checked) = checked.violations := by
  cases checked <;> rfl

theorem exists_accept_iff (checked : Validated Query) :
    (∃ query, accept checked = .ok query) ↔ checked.violations = [] := by
  cases checked <;> simp [accept, Validated.violations]

/-- What a whitelist lets through is let through alike by a wider one, and where the
filters may be nested deeper. What is turned down, and not for its depth, is told a part
of the same violations by the wider whitelist: it is accepted when none of them is left,
and otherwise turned down with those that are left. A body that is no request at all
stays one. -/
theorem parse_within (within : narrow.Within wide) (config : Config) (body : Json) :
    (∀ query, parse narrow config body = .ok query → ∀ roomy : Config,
      roomy.caseSensitiveSearch = config.caseSensitiveSearch →
      config.maxNestedDepth ≤ roomy.maxNestedDepth → parse wide roomy body = .ok query) ∧
    ∀ failure, parse narrow config body = .error failure → failure ≠ depthFailure config →
      (reported (parse wide config body)).Sublist failure.violations ∧
      (failure.violations = [] → parse wide config body = .error failure) ∧
      (failure.violations ≠ [] →
        (reported (parse wide config body) = [] ↔
          ∃ query, parse wide config body = .ok query)) := by
  cases body with
  | null => exact ⟨fun _ parsed _ _ _ => parsed, fun _ impossible => (nomatch impossible)⟩
  | object fields =>
      constructor
      · intro query parsed roomy sameCase deeper
        have flat : ¬ config.maxNestedDepth < bodyDepth (.object fields) := fun deep =>
          nomatch (parse_of_deep deep).symm.trans parsed
        have stillFlat : ¬ roomy.maxNestedDepth < bodyDepth (.object fields) := by omega
        rw [parse_of_flat flat, accept_eq_ok_iff] at parsed
        rw [parse_of_flat stillFlat, accept_eq_ok_iff]
        exact (relaxes_clauses within sameCase fields).valid query parsed
      · intro failure failed shallow
        have flat : ¬ config.maxNestedDepth < bodyDepth (.object fields) := fun deep =>
          shallow (Except.error.inj (failed.symm.trans (parse_of_deep deep)))
        rw [parse_of_flat flat] at failed ⊢
        have told : failure.violations = (clauses narrow config fields).violations := by
          rw [← reported_accept, failed]
          rfl
        rw [reported_accept, exists_accept_iff, told]
        refine ⟨(relaxes_clauses within rfl fields).violations, fun silent => ?_, fun _ => Iff.rfl⟩
        obtain ⟨query, accepted⟩ := (exists_accept_iff _).mpr silent
        cases accepted.symm.trans failed
  | _ =>
      refine ⟨fun _ impossible => (nomatch impossible), fun failure failed _ => ?_⟩
      cases failed
      exact ⟨.refl _, fun _ => rfl, fun spoken => absurd rfl spoken⟩

/-- Titles and the columns of the author can be filtered. -/
def authorWhitelist : Whitelist :=
  { filterable := ["author.*", "title", "title"], searchable := ["body"] }

/-- In a group, a test of the name of the author and one with an unknown combinator,
beside an order by the title. -/
def authorFields : List (String × Json) :=
  [("filters", .array
      [.object
          [("nested", .array
              [.object [("field", .text "author.name"), ("value", .text "Lean")],
                .object
                  [("field", .text "title"), ("type", .text "xor"), ("value", .text "Logic")]])]]),
    ("sort", .array [.object [("field", .text "title")]])]

theorem titleWhitelist_within : titleWhitelist.Within authorWhitelist where
  filterable := by simp [titleWhitelist, authorWhitelist]
  sortable := List.nil_subset _
  exposed := List.nil_subset _

/-- A request for titles is read alike with both whitelists. One that also names the author
is told of its name, of the combinator and of the order; with the wider whitelist it is told
of the last two. -/
theorem parse_within_authorWhitelist :
    (∃ query, parse titleWhitelist {} (.object emptyGroupFields) = .ok query ∧
      parse authorWhitelist { maxNestedDepth := 3 } (.object emptyGroupFields) = .ok query) ∧
    ∃ first others, parse titleWhitelist {} (.object authorFields) =
        .error (.invalid (first :: others)) ∧
      reported (parse authorWhitelist {} (.object authorFields)) = others ∧
      others.map Violation.field = ["filters.0.nested.1.type", "sort.0.field"] ∧
      others.Sublist (first :: others) ∧
      ¬ ∃ query, parse authorWhitelist {} (.object authorFields) = .ok query := by
  constructor
  · have read : ∃ query, parse titleWhitelist {} (.object emptyGroupFields) = .ok query := ⟨_, rfl⟩
    obtain ⟨query, parsed⟩ := read
    have accepts := (parse_within titleWhitelist_within {} (.object emptyGroupFields)).1
    exact ⟨query, parsed, accepts query parsed _ rfl (by decide)⟩
  · have told : ∃ first others, parse titleWhitelist {} (.object authorFields) =
        .error (.invalid (first :: others)) ∧
        reported (parse authorWhitelist {} (.object authorFields)) = others ∧
        others.map Violation.field = ["filters.0.nested.1.type", "sort.0.field"] :=
      ⟨_, _, rfl, rfl, by decide⟩
    obtain ⟨first, others, refused, left, places⟩ := told
    have shallow : Failure.invalid (first :: others) ≠ depthFailure {} := by
      rintro same
      cases same
      cases places
    obtain ⟨fewer, _, silent⟩ :=
      (parse_within titleWhitelist_within {} (.object authorFields)).2 _ refused shallow
    refine ⟨first, others, refused, left, places, left ▸ fewer, fun accepted => ?_⟩
    have none := (silent (List.cons_ne_nil _ _)).mpr accepted
    rw [left] at none
    rw [none] at places
    cases places

end Request

end QueryGate
