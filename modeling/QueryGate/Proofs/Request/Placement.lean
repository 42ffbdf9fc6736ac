import QueryGate.Proofs.Request.Acceptance

/-!
# Checks and the places of their parts

A check is told where its part stands only to say where the violations are. What it
decides, and how far below the part each violation lies, is the same wherever the part
stands: a check at a place is the check at no place at all, with the place before that of
every violation (`Validated.under`).

For filters it goes by induction on the JSON value, nodes and nested lists at once
(`filterNode_placed`). A filter list is named after its place in one message, where it is
no array, but the list of the body and nested lists are never exchanged. So an entry of a
list, whatever the list, is checked by itself and then put in its position
(`ChecksEntries`).
-/

set_option autoImplicit false

namespace QueryGate

/-- A violation in a part, as one of the whole that has the part at the place. -/
def Violation.under (place : Place) (violation : Violation) : Violation :=
  ⟨place ++ violation.place, violation.reason⟩

theorem Violation.under_under (outer inner : Place) (violation : Violation) :
    (violation.under inner).under outer = violation.under (outer ++ inner) := by
  rw [under, under, under, List.append_assoc]

theorem map_mapIdx {α β γ : Type} (next : β → γ) (function : Nat → α → β) (items : List α) :
    (items.mapIdx function).map next =
      items.mapIdx fun position item => next (function position item) := by
  simp [List.mapIdx_eq_zipIdx_map]

/-- The reports of the entries of a list that stands at the place, one after another. -/
def reportEach (place : Place) (report : Json → List Violation) (entries : List Json) :
    List Violation :=
  (entries.mapIdx fun position entry =>
    (report entry).map (Violation.under (place ++ [.index position]))).flatten

theorem map_under_reportEach (outer place : Place) (report : Json → List Violation)
    (entries : List Json) :
    (reportEach place report entries).map (Violation.under outer) =
      reportEach (outer ++ place) report entries := by
  have placed (position : Nat) :
      Violation.under outer ∘ Violation.under (place ++ [.index position]) =
        Violation.under (outer ++ place ++ [.index position]) := by
    funext violation
    rw [Function.comp_apply, Violation.under_under, List.append_assoc]
  rw [reportEach, List.map_flatten, map_mapIdx]
  simp only [List.map_map, placed]
  rfl

namespace Validated

variable {α β : Type}

/-- The check of a part, as a check in the whole that has the part at the place. -/
def under (place : Place) : Validated α → Validated α
  | valid value => valid value
  | invalid first others => invalid (first.under place) (others.map (Violation.under place))

@[simp]
theorem under_valid (place : Place) (value : α) : (valid value).under place = valid value := rfl

@[simp]
theorem under_reject (outer place : Place) (reason : Reason) :
    (reject place reason : Validated α).under outer = reject (outer ++ place) reason := rfl

@[simp]
theorem violations_under (place : Place) (checked : Validated α) :
    (checked.under place).violations = checked.violations.map (Violation.under place) := by
  cases checked <;> rfl

@[simp]
theorem under_map (place : Place) (checked : Validated α) (function : α → β) :
    (checked.map function).under place = (checked.under place).map function := by
  cases checked <;> rfl

@[simp]
theorem under_both (place : Place) (left : Validated α) (right : Validated β) :
    (left.both right).under place = (left.under place).both (right.under place) := by
  cases left with
  | valid value => cases right <;> rfl
  | invalid first others =>
      have rest : (others ++ right.violations).map (Violation.under place) =
          others.map (Violation.under place) ++ (right.under place).violations := by
        rw [List.map_append, violations_under]
      exact congrArg (invalid (first.under place)) rest

@[simp]
theorem under_andThen (place : Place) (checked : Validated α) (next : α → Validated β) :
    (checked.andThen next).under place =
      (checked.under place).andThen fun value => (next value).under place := by
  cases checked <;> rfl

@[simp]
theorem under_ofOption (outer : Place) (found : Option α) (place : Place) (reason : Reason) :
    (ofOption found place reason).under outer = ofOption found (outer ++ place) reason := by
  cases found <;> rfl

@[simp]
theorem under_all (place : Place) (parts : List (Validated α)) :
    (all parts).under place = all (parts.map (under place)) := by
  induction parts with
  | nil => rfl
  | cons checked rest ih => rw [all, under_map, under_both, ih, List.map_cons, all]

theorem under_under (outer inner : Place) (checked : Validated α) :
    (checked.under inner).under outer = checked.under (outer ++ inner) := by
  cases checked with
  | valid value => rfl
  | invalid first others =>
      have each : Violation.under outer ∘ Violation.under inner =
          Violation.under (outer ++ inner) :=
        funext (Violation.under_under outer inner)
      simp only [under, Violation.under_under, List.map_map, each]

/-- Putting a list of checks in place puts each of them there. -/
theorem under_all_mapIdx {γ : Type} (place : Place) (check : Nat → γ → Validated α)
    (items : List γ) :
    (all (items.mapIdx check)).under place =
      all (items.mapIdx fun position item => (check position item).under place) := by
  rw [under_all, map_mapIdx]

end Validated

namespace Request

open Validated (under under_under under_all_mapIdx)

variable (whitelist : Whitelist) (place : Place) (fields : List (String × Json))

/-! ## Single values -/

theorem requiredText_placed (key : String) :
    requiredText place key fields = (requiredText [] key fields).under place := by
  unfold requiredText
  cases Json.present? key fields with
  | none => rfl
  | some json => cases json <;> rfl

theorem scopeName_placed : scopeName whitelist place fields =
    (scopeName whitelist [] fields).under place := by
  unfold scopeName
  rw [requiredText_placed]
  simp only [Validated.under_andThen, apply_ite (under place), Validated.under_valid,
    Validated.under_reject, List.nil_append]

theorem scopeParameters_placed : scopeParameters place fields =
    (scopeParameters [] fields).under place := by
  unfold scopeParameters
  cases Json.present? "parameters" fields with
  | none => rfl
  | some json => cases json <;> rfl

theorem fieldName_placed (whenMissing : Reason) :
    fieldName place whenMissing fields = (fieldName [] whenMissing fields).under place := by
  unfold fieldName
  cases Json.present? "field" fields with
  | none => rfl
  | some json =>
      cases json with
      | text name =>
          simp only [apply_ite (under place), Validated.under_valid, Validated.under_reject,
            List.nil_append]
      | _ => rfl

theorem sortField_placed : sortField whitelist place fields =
    (sortField whitelist [] fields).under place := by
  unfold sortField
  rw [fieldName_placed]
  simp only [Validated.under_andThen, apply_ite (under place), Validated.under_valid,
    Validated.under_reject, List.nil_append]

theorem sortDirection_placed : sortDirection place fields =
    (sortDirection [] fields).under place := by
  unfold sortDirection
  cases Json.present? "direction" fields with
  | none => rfl
  | some json =>
      cases json with
      | text word =>
          dsimp only
          cases Sql.Direction.ofText? word <;> rfl
      | _ => rfl

theorem combinator_placed : combinator place fields = (combinator [] fields).under place := by
  unfold combinator
  cases Json.present? "type" fields with
  | none => rfl
  | some json =>
      cases json with
      | text word =>
          dsimp only
          cases Combinator.ofText? word <;> rfl
      | _ => rfl

theorem operator?_placed : operator? place fields = (operator? [] fields).under place := by
  unfold operator?
  cases Json.present? "operator" fields with
  | none => rfl
  | some json =>
      cases json with
      | text spelling =>
          dsimp only
          cases Operator.ofText? spelling <;> rfl
      | _ => rfl

theorem filterField_placed : filterField whitelist place fields =
    (filterField whitelist [] fields).under place := by
  unfold filterField
  rw [fieldName_placed]
  simp only [Validated.under_andThen, apply_ite (under place), Validated.under_valid,
    Validated.under_reject, List.nil_append]

theorem fieldBeside_placed : fieldBeside whitelist place fields =
    (fieldBeside whitelist [] fields).under place := by
  unfold fieldBeside
  cases Json.present? "field" fields with
  | none => rfl
  | some _ =>
      dsimp only
      rw [filterField_placed, Validated.under_map]

/-! ## Operators and values -/

theorem scalar_placed (outer : Place) (otherwise : Reason) (value : Json) :
    scalar (outer ++ place) otherwise value = (scalar place otherwise value).under outer :=
  (Validated.under_ofOption outer _ place _).symm

theorem filterValue_placed : filterValue place fields =
    (filterValue [] fields).under place := by
  rw [filterValue_eq_present, filterValue_eq_present]
  cases Json.present? "value" fields with
  | none => rfl
  | some json =>
      cases json with
      | array items =>
          dsimp only
          rw [Validated.under_map, under_all_mapIdx]
          simp only [← scalar_placed, List.nil_append, List.append_assoc]
      | _ =>
          dsimp only
          rw [Validated.under_map, ← scalar_placed, List.nil_append]

theorem fit_placed (operator : Operator) (value : FilterValue) :
    fit place operator value = (fit [] operator value).under place := by
  cases value with
  | null =>
      rw [fit, fit, apply_ite (under place)]
      rfl
  | list values =>
      rw [fit, fit, apply_ite (under place)]
      rfl
  | scalar scalar => rfl

theorem comparison_placed : comparison place fields = (comparison [] fields).under place := by
  unfold comparison
  rw [filterValue_placed, operator?_placed]
  simp only [Validated.under_andThen, Validated.under_both, ← fit_placed]

/-! ## Filters -/

theorem leaf_placed : leaf whitelist place fields = (leaf whitelist [] fields).under place := by
  unfold leaf
  rw [combinator_placed, filterField_placed, comparison_placed, Validated.under_map,
    Validated.under_both, Validated.under_both]

theorem group_placed (nested : Validated (List Filter)) :
    group whitelist place fields (nested.under place) =
      (group whitelist [] fields nested).under place := by
  unfold group
  rw [combinator_placed, fieldBeside_placed, Validated.under_map, Validated.under_both,
    Validated.under_both]

/-- The nodes of a list are checked one by one. -/
theorem filterItems_eq_all (position : Nat) (items : List Json) :
    filterItems whitelist place position items =
      Validated.all (items.mapIdx fun index item =>
        filterNode whitelist (place ++ [.index (index + position)]) item) := by
  induction items generalizing position with
  | nil => rw [filterItems, List.mapIdx_nil, Validated.all]
  | cons item items ih =>
      have later (index : Nat) : index + (position + 1) = index + 1 + position := by omega
      rw [filterItems, ih, List.mapIdx_cons, Validated.all, Nat.zero_add]
      simp only [later]

theorem filterList_array (items : List Json) :
    filterList whitelist place (.array items) =
      Validated.all (items.mapIdx fun position item =>
        filterNode whitelist (place ++ [.index position]) item) := by
  rw [filterList, filterItems_eq_all]
  rfl

/-- The nested lists of all places have one name. -/
theorem listName_nested : listName (place ++ [.key "nested"]) = "nested filters" := by
  refine if_neg fun same => ?_
  have last := congrArg List.getLast? same
  rw [List.getLast?_concat] at last
  exact absurd last (by decide)

/-- A node without nested filters is a test, and every other one a group. -/
theorem filterNode_object :
    filterNode whitelist place (.object fields) =
      match Json.present? "nested" fields with
      | none => leaf whitelist place fields
      | some json => group whitelist place fields
          (filterList whitelist (place ++ [.key "nested"]) json) := by
  rw [filterNode, nestedFilters_eq]
  cases Json.present? "nested" fields <;> rfl

theorem filterNode_of_single {json : Json} (bare : ∀ fields, json ≠ .object fields) :
    filterNode whitelist place json = .reject place (.notObject "filter") := by
  rw [filterNode]
  exact bare

theorem nestedList_of_single {json : Json} (bare : ∀ items, json ≠ .array items) :
    filterList whitelist (place ++ [.key "nested"]) json =
      .reject (place ++ [.key "nested"]) (.notArray "nested filters") := by
  rw [filterList, listName_nested]
  exact bare

/-- Nodes and nested lists at once: the items of a list are nodes, and the nested filters
of a node are a list. -/
theorem filters_placed (json : Json) :
    (∀ place, filterNode whitelist place json = (filterNode whitelist [] json).under place) ∧
      ∀ place, filterList whitelist (place ++ [.key "nested"]) json =
        (filterList whitelist [.key "nested"] json).under place := by
  have node {json : Json} (bare : ∀ fields, json ≠ .object fields) (place : Place) :
      filterNode whitelist place json = (filterNode whitelist [] json).under place := by
    rw [filterNode_of_single whitelist place bare, filterNode_of_single whitelist [] bare,
      Validated.under_reject, List.append_nil]
  have list {json : Json} (bare : ∀ items, json ≠ .array items) (place : Place) :
      filterList whitelist (place ++ [.key "nested"]) json =
        (filterList whitelist [.key "nested"] json).under place := by
    have alone := nestedList_of_single whitelist [] bare
    rw [List.nil_append] at alone
    rw [nestedList_of_single whitelist place bare, alone, Validated.under_reject]
  induction json using Json.members_induction with
  | single json bare =>
      refine ⟨node ?_, list ?_⟩
      · rintro fields rfl
        cases bare
      · rintro items rfl
        cases bare
  | array items ih =>
      refine ⟨node fun _ impossible => (nomatch impossible), fun place => ?_⟩
      have each (index : Nat) (member : index < items.length) :
          filterNode whitelist (place ++ [.key "nested"] ++ [.index index]) items[index] =
            (filterNode whitelist [.key "nested", .index index] items[index]).under place := by
        have placed := (ih items[index] (List.getElem_mem member)).1
        rw [placed, placed [.key "nested", .index index], under_under, List.append_assoc]
        rfl
      rw [filterList_array, filterList_array, under_all_mapIdx]
      exact congrArg Validated.all (List.mapIdx_eq_mapIdx_iff.mpr each)
  | object fields ih =>
      refine ⟨fun place => ?_, list fun _ impossible => (nomatch impossible)⟩
      rw [filterNode_object, filterNode_object]
      cases found : Json.present? "nested" fields with
      | none => exact leaf_placed whitelist place fields
      | some json =>
          have nested := (ih (_, json) (mem_of_present? found)).2 place
          dsimp only at nested ⊢
          rw [nested]
          exact group_placed whitelist place fields _

/-- A node is checked alike wherever it stands. -/
theorem filterNode_placed (place : Place) (json : Json) :
    filterNode whitelist place json = (filterNode whitelist [] json).under place :=
  (filters_placed whitelist json).1 place

/-! ## Lists of entries -/

/-- The list under a key is checked entry by entry: each by itself, and then put in its
position. -/
def ChecksEntries {α : Type} (key : String) (read : Json → Validated (List α))
    (entry : Json → Validated α) : Prop :=
  ∀ items, read (.array items) =
    Validated.all (items.mapIdx fun position item =>
      (entry item).under [.key key, .index position])

theorem violations_all_entries {α : Type} (key : String) (entry : Json → Validated α)
    (items : List Json) :
    (Validated.all (items.mapIdx fun position item =>
      (entry item).under [.key key, .index position])).violations =
      reportEach [.key key] (fun item => (entry item).violations) items := by
  rw [Validated.violations_all, List.flatMap_def, map_mapIdx]
  simp only [Validated.violations_under]
  rfl

theorem ChecksEntries.violations {α : Type} {key : String} {read : Json → Validated (List α)}
    {entry : Json → Validated α} (checks : ChecksEntries key read entry) (items : List Json) :
    (read (.array items)).violations =
      reportEach [.key key] (fun item => (entry item).violations) items := by
  rw [checks, violations_all_entries]

/-- An entry that has to be an object. -/
def objectEntry {α : Type} (entryName : String)
    (read : Place → List (String × Json) → Validated α) : Json → Validated α
  | .object fields => read [] fields
  | _ => .reject [] (.notObject entryName)

theorem checksEntries_entries {α : Type} {key entryName : String}
    {read : Place → List (String × Json) → Validated α}
    (placed : ∀ place fields, read place fields = (read [] fields).under place) :
    ChecksEntries key (entries key entryName read) (objectEntry entryName read) := by
  intro items
  refine congrArg (fun check => Validated.all (items.mapIdx check)) ?_
  funext position item
  cases item with
  | object fields => exact placed _ fields
  | _ => rfl

/-- A scope of a request by itself. -/
def scopeEntry : Json → Validated ScopeCall :=
  objectEntry "scope" fun place fields =>
    ((scopeName whitelist place fields).both (scopeParameters place fields)).map fun parts =>
      ⟨parts.1, parts.2⟩

/-- An order of a request by itself. -/
def sortEntry : Json → Validated SortKey :=
  objectEntry "sort" fun place fields =>
    ((sortField whitelist place fields).both (sortDirection place fields)).map fun parts =>
      ⟨parts.1, parts.2⟩

theorem checksEntries_scopes :
    ChecksEntries "scopes" (scopes whitelist) (scopeEntry whitelist) := by
  refine checksEntries_entries fun place fields => ?_
  rw [scopeName_placed, scopeParameters_placed, Validated.under_map, Validated.under_both]

theorem checksEntries_sorting : ChecksEntries "sort" (sorting whitelist) (sortEntry whitelist) := by
  refine checksEntries_entries fun place fields => ?_
  rw [sortField_placed, sortDirection_placed, Validated.under_map, Validated.under_both]

theorem checksEntries_filters (key : String) :
    ChecksEntries key (filterList whitelist [.key key]) (filterNode whitelist []) := by
  intro items
  rw [filterList_array]
  refine congrArg (fun check => Validated.all (items.mapIdx check)) ?_
  funext position item
  exact filterNode_placed whitelist _ item

/-! ## Bodies -/

/-- What is reported of the value of a flag. -/
def flagReport (key : String) (value : Json) : List Violation :=
  (Validated.ofOption (flag? value) [.key key] (.notFlag "flag")).violations

/-- The clauses in the order in which a body is walked, each with what is reported of its
value. -/
def clauseReports (config : Config) : List (String × (Json → List Violation)) :=
  [("scopes", fun value => (scopes whitelist value).violations),
    ("filters", fun value => (filterList whitelist [.key "filters"] value).violations),
    ("search", fun value => (search config value).violations),
    ("sort", fun value => (sorting whitelist value).violations),
    ("with_trashed", flagReport "with_trashed"),
    ("only_trashed", flagReport "only_trashed")]

theorem violations_clause {α : Type} (key : String) (absent : α) (read : Json → Validated α) :
    (clause key fields absent read).violations =
      (Json.present? key fields).elim [] fun value => (read value).violations := by
  unfold clause
  cases Json.present? key fields <;> rfl

/-- The reports of the clauses that are present, one after another. -/
theorem violations_clauses (config : Config) :
    (clauses whitelist config fields).violations =
      (clauseReports whitelist config).flatMap fun clause =>
        (Json.present? clause.1 fields).elim [] clause.2 := by
  have flag (key : String) : (requestFlag key fields).violations =
      (Json.present? key fields).elim [] (flagReport key) :=
    violations_clause fields key false _
  simp only [clauses, trashed, Validated.violations_map, Validated.violations_both,
    violations_clause, flag, clauseReports, List.flatMap_cons, List.flatMap_nil, List.append_nil]

end Request

end QueryGate
