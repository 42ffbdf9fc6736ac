import QueryGate.Proofs.Request.Acceptance

/-!
# The depth of a request

The depth of raw filters is measured before they are read, by counting containers. It
bounds the depth of the groups that are read from them: a group of depth `n` stands in a
node with at least `2n - 1` containers inside one another, and a list of such groups in
at least `2n` of them (`SpellsFilters.two_mul_listDepth_le`).

Where a node holds containers only as its nested filters or its value, nothing else is
counted, and the list has at most one container more, the innermost node
(`SpellsFilters.itemsDepth_le`). Then half the containers is the depth itself, and a
request is turned down exactly when its groups are nested too deeply
(`parse_bounds_depth`).
-/

set_option autoImplicit false

namespace QueryGate.Request

/-! ## Counting containers -/

theorem fieldsDepth_le_iff (fields : List (String × Json)) (bound : Nat) :
    fieldsDepth fields ≤ bound ↔ ∀ entry ∈ fields, entry.1 ≠ "value" →
      entry.2.isContainer = true → containerDepth entry.2 + 1 ≤ bound := by
  induction fields with
  | nil =>
      rw [fieldsDepth]
      exact ⟨fun _ _ impossible => absurd impossible List.not_mem_nil, fun _ => bound.zero_le⟩
  | cons entry fields ih =>
      obtain ⟨key, value⟩ := entry
      rw [fieldsDepth, Nat.max_le, ih, List.forall_mem_cons]
      refine and_congr_left fun _ => ?_
      split
      · next counted => exact ⟨fun small _ _ => small, fun all => all counted.1 counted.2⟩
      · next free =>
          exact ⟨fun _ counted container => absurd ⟨counted, container⟩ free,
            fun _ => bound.zero_le⟩

/-- A container that is counted lies above all that it holds. -/
theorem containerDepth_lt_fieldsDepth {fields : List (String × Json)} {entry : String × Json}
    (member : entry ∈ fields) (counted : entry.1 ≠ "value")
    (container : entry.2.isContainer = true) :
    containerDepth entry.2 + 1 ≤ fieldsDepth fields :=
  (fieldsDepth_le_iff fields _).mp (Nat.le_refl _) entry member counted container

theorem itemsDepth_cons_of_isContainer {item : Json} (items : List Json)
    (container : item.isContainer = true) :
    itemsDepth (item :: items) = max (containerDepth item + 1) (itemsDepth items) := by
  rw [itemsDepth, if_pos container]

theorem SpellsFilter.isContainer {whitelist : Whitelist} {json : Json} {filter : Filter}
    (spelled : SpellsFilter whitelist json filter) : json.isContainer = true := by
  cases spelled <;> rfl

/-! ## Groups need containers -/

mutual

/-- Every group but the outermost one costs its node two containers. -/
theorem SpellsFilter.two_mul_depth_le {whitelist : Whitelist} : ∀ {json : Json} {filter : Filter},
    SpellsFilter whitelist json filter → 2 * filter.depth ≤ containerDepth json + 1
  | _, _, .group _ _ nested members => by
      have inner := members.two_mul_listDepth_le
      have counted : "nested" ≠ "value" := by decide
      have listed := containerDepth_lt_fieldsDepth (mem_of_present? nested) counted rfl
      rw [containerDepth] at listed
      rw [Filter.depth, containerDepth]
      omega
  | _, _, .test _ _ _ _ => by
      rw [Filter.depth]
      exact Nat.zero_le _

/-- Every group costs a list two containers. -/
theorem SpellsFilters.two_mul_listDepth_le {whitelist : Whitelist} : ∀ {items : List Json}
    {filters : List Filter}, SpellsFilters whitelist items filters →
      2 * Filter.listDepth filters ≤ itemsDepth items
  | _, _, .nil => by
      rw [Filter.listDepth]
      exact Nat.zero_le _
  | _, _, .cons here there => by
      have first := here.two_mul_depth_le
      have later := there.two_mul_listDepth_le
      rw [Filter.listDepth, itemsDepth_cons_of_isContainer _ here.isContainer]
      omega

end

/-! ## Plain nodes need no more -/

/-- A node whose keys occur once each and that holds arrays and objects only under
`nested` and `value`; the nodes that are nested in it are of the same kind. -/
inductive PlainNode : Json → Prop where
  | object {fields : List (String × Json)}
      (once : (fields.map Prod.fst).Nodup)
      (only : ∀ entry ∈ fields, entry.2.isContainer = true →
        entry.1 = "nested" ∨ entry.1 = "value")
      (nested : ∀ items, Json.present? "nested" fields = some (.array items) →
        ∀ item ∈ items, PlainNode item) :
      PlainNode (.object fields)

/-- A container is found under its key. -/
theorem present?_of_mem {fields : List (String × Json)} (once : (fields.map Prod.fst).Nodup)
    {entry : String × Json} (member : entry ∈ fields) (container : entry.2.isContainer = true) :
    Json.present? entry.1 fields = some entry.2 := by
  refine (Json.present?_eq_some_iff _ _ _).mpr ⟨?_, ?_⟩
  · induction fields with
    | nil => exact absurd member List.not_mem_nil
    | cons first fields ih =>
        obtain ⟨apart, distinct⟩ := List.nodup_cons.mp once
        rcases List.mem_cons.mp member with rfl | later
        · exact List.lookup_cons_self
        · have different : entry.1 ≠ first.1 :=
            fun same => apart (same ▸ List.mem_map_of_mem later)
          rw [List.lookup_cons, beq_eq_false_iff_ne.mpr different]
          exact ih distinct later
  · cases json : entry.2 with
    | null =>
        rw [json] at container
        cases container
    | _ => rfl

mutual

/-- A plain node has two containers for each of its groups at most. -/
theorem SpellsFilter.containerDepth_le {whitelist : Whitelist} : ∀ {json : Json} {filter : Filter},
    SpellsFilter whitelist json filter → PlainNode json → containerDepth json ≤ 2 * filter.depth
  | _, _, .group _ _ nested members, .object once only plain => by
      have inner := members.itemsDepth_le (plain _ nested)
      rw [containerDepth, Filter.depth, fieldsDepth_le_iff]
      intro entry member counted container
      have key : entry.1 = "nested" := (only entry member container).resolve_right counted
      have found := present?_of_mem once member container
      rw [key, nested] at found
      rw [← Option.some.inj found, containerDepth]
      omega
  | _, _, .test _ _ absent _, .object once only _ => by
      rw [containerDepth, Filter.depth, fieldsDepth_le_iff]
      intro entry member counted container
      have key : entry.1 = "nested" := (only entry member container).resolve_right counted
      have found := present?_of_mem once member container
      rw [key, absent] at found
      cases found

/-- A list of plain nodes has two containers for each of its groups, and one for the
innermost node. -/
theorem SpellsFilters.itemsDepth_le {whitelist : Whitelist} : ∀ {items : List Json}
    {filters : List Filter}, SpellsFilters whitelist items filters →
      (∀ item ∈ items, PlainNode item) → itemsDepth items ≤ 2 * Filter.listDepth filters + 1
  | _, _, .nil, _ => by
      rw [itemsDepth]
      exact Nat.zero_le _
  | _, _, .cons here there, plain => by
      obtain ⟨first, others⟩ := List.forall_mem_cons.mp plain
      have node := here.containerDepth_le first
      have later := there.itemsDepth_le others
      rw [Filter.listDepth, itemsDepth_cons_of_isContainer _ here.isContainer]
      omega

end

/-- The depth of a raw list of plain nodes is that of the filters that it spells. -/
theorem SpellsFilters.filterDepth_eq {whitelist : Whitelist} {items : List Json}
    {filters : List Filter} (spelled : SpellsFilters whitelist items filters)
    (plain : ∀ item ∈ items, PlainNode item) :
    filterDepth (.array items) = Filter.listDepth filters := by
  have enough := spelled.two_mul_listDepth_le
  have few := spelled.itemsDepth_le plain
  rw [filterDepth, containerDepth]
  omega

/-! ## The guard -/

/-- The measured depth of the filters of a body, zero where there are none. -/
def bodyDepth : Json → Nat
  | .object fields =>
      match Json.present? "filters" fields with
      | none => 0
      | some filters => filterDepth filters
  | _ => 0

/-- The filters of a request are lists of plain nodes. -/
def PlainFilters (fields : List (String × Json)) : Prop :=
  ∀ items, Json.present? "filters" fields = some (.array items) → ∀ item ∈ items, PlainNode item

/-- The failure of a request whose filters are nested too deeply. -/
def depthFailure (config : Config) : Failure :=
  .violation [.key "filters"] (.tooDeep config.maxNestedDepth)

section Guard

variable {whitelist : Whitelist} {config : Config} {fields : List (String × Json)}

theorem guardDepth_eq (config : Config) (fields : List (String × Json)) :
    guardDepth config fields =
      if config.maxNestedDepth < bodyDepth (.object fields) then .error (depthFailure config)
      else .ok () := by
  unfold guardDepth
  split
  · next absent =>
      have unmeasured : bodyDepth (.object fields) = 0 := by rw [bodyDepth, absent]
      rw [unmeasured, if_neg (Nat.not_lt_zero _)]
  · next filters found =>
      have measured : bodyDepth (.object fields) = filterDepth filters := by rw [bodyDepth, found]
      rw [measured]
      rfl

/-- Nothing else of a body is looked at when its filters are nested too deeply. -/
theorem parse_of_deep {body : Json} (deep : config.maxNestedDepth < bodyDepth body) :
    parse whitelist config body = .error (depthFailure config) := by
  cases body with
  | object fields =>
      rw [parse, guardDepth_eq, if_pos deep]
      rfl
  | _ => exact absurd deep (Nat.not_lt_zero _)

/-- Where the filters are not nested too deeply, the clauses decide. -/
theorem parse_of_flat (flat : ¬ config.maxNestedDepth < bodyDepth (.object fields)) :
    parse whitelist config (.object fields) = accept (clauses whitelist config fields) := by
  rw [parse, guardDepth_eq, if_neg flat]
  rfl

theorem depth_le_listDepth {filter : Filter} {filters : List Filter} (member : filter ∈ filters) :
    filter.depth ≤ Filter.listDepth filters := by
  induction filters with
  | nil => exact absurd member List.not_mem_nil
  | cons first filters ih =>
      rw [Filter.listDepth]
      rcases List.mem_cons.mp member with rfl | later
      · exact Nat.le_max_left _ _
      · exact Nat.le_trans (ih later) (Nat.le_max_right _ _)

/-- What a valid filter clause says of the depth of the filters that are read from it. -/
theorem SpellsRequest.depths {query : Query}
    (spelled : SpellsRequest whitelist config fields query) :
    Filter.listDepth query.filters ≤ bodyDepth (.object fields) ∧
      (PlainFilters fields → Filter.listDepth query.filters = bodyDepth (.object fields)) := by
  have filters := spelled.filters
  unfold Reads at filters
  unfold bodyDepth PlainFilters
  dsimp only
  split at filters
  · next absent =>
      rw [filters, absent, Filter.listDepth]
      exact ⟨Nat.le_refl 0, fun _ => rfl⟩
  · next found =>
      obtain ⟨items, rfl, nodes⟩ := filters
      rw [found]
      refine ⟨?_, fun plain => (nodes.filterDepth_eq (plain items rfl)).symm⟩
      have enough := nodes.two_mul_listDepth_le
      show Filter.listDepth query.filters ≤ filterDepth (.array items)
      rw [filterDepth, containerDepth]
      omega

end Guard

/-- The measured depth bounds that of every filter that is parsed, and the limit bounds
the measured one. Where nodes are plain the measured depth is exactly that of the
filters, so a request with valid clauses is turned down exactly when they are nested too
deeply. Whatever else is wrong with a body, one that is nested too deeply is told so and
nothing else. -/
theorem parse_bounds_depth (whitelist : Whitelist) (config : Config) :
    (∀ body query, parse whitelist config body = .ok query →
      (∀ filter ∈ query.filters, filter.depth ≤ bodyDepth body) ∧
        bodyDepth body ≤ config.maxNestedDepth) ∧
    (∀ fields query, clauses whitelist config fields = .valid query → PlainFilters fields →
      Filter.listDepth query.filters = bodyDepth (.object fields) ∧
        parse whitelist config (.object fields) =
          if config.maxNestedDepth < Filter.listDepth query.filters then
            .error (depthFailure config)
          else .ok query) ∧
    ∀ body, config.maxNestedDepth < bodyDepth body →
      ∃ failure, parse whitelist config body = .error failure ∧ failure.status.code = 422 ∧
        failure.violations.map Violation.field = ["filters"] := by
  refine ⟨fun body query parsed => ⟨fun filter member => ?_, ?_⟩,
    fun fields query valid plain => ?_, fun body deep => ⟨_, parse_of_deep deep, rfl, rfl⟩⟩
  · obtain ⟨_, spelled⟩ := (parse_eq_ok_iff whitelist config body query).mp parsed
    cases spelled with
    | empty => exact absurd member List.not_mem_nil
    | object request => exact Nat.le_trans (depth_le_listDepth member) request.depths.1
  · by_contra deep
    rw [parse_of_deep (Nat.lt_of_not_le deep)] at parsed
    cases parsed
  · have same := ((clauses_eq_valid_iff _ _ _ _).mp valid).depths.2 plain
    refine ⟨same, ?_⟩
    rw [same]
    split
    · next deep => exact parse_of_deep deep
    · next flat => rw [parse_of_flat flat, valid, accept]

/-- Titles can be filtered. -/
def titleWhitelist : Whitelist := { filterable := ["title"] }

/-- An empty group beside a test with a list of values. -/
def emptyGroupFields : List (String × Json) :=
  [("filters", .array
      [.object [("nested", .array [])],
        .object
          [("field", .text "title"), ("operator", .text "in"),
            ("value", .array [.text "first", .text "second"])]])]

/-- An empty group in a group, beside orders that are no list. -/
def nestedGroupFields : List (String × Json) :=
  [("filters", .array [.object [("nested", .array [.object [("nested", .array [])]])]]),
    ("sort", .text "title")]

theorem plainFilters_emptyGroupFields : PlainFilters emptyGroupFields := by
  intro items found
  have same := Json.array.inj (Option.some.inj found)
  subst same
  refine List.forall_mem_cons.mpr ⟨?_, List.forall_mem_singleton.mpr ?_⟩
  · refine .object (by decide) (List.forall_mem_singleton.mpr fun _ => .inl rfl) ?_
    intro items nested
    have none := Json.array.inj (Option.some.inj nested)
    subst none
    exact fun _ impossible => absurd impossible List.not_mem_nil
  · refine .object (by decide) ?_ fun _ impossible => (nomatch impossible)
    simp [Json.isContainer]

/-- One level of groups is allowed by default. The empty group counts as one and the list
of values as none, so the first request is read; the second is turned down for its depth
alone. -/
theorem parse_bounds_depth_emptyGroup :
    (∃ query, parse titleWhitelist {} (.object emptyGroupFields) = .ok query ∧
      Filter.listDepth query.filters = 1) ∧
    ∃ failure, parse titleWhitelist {} (.object nestedGroupFields) = .error failure ∧
      failure.status.code = 422 ∧ failure.violations.map Violation.field = ["filters"] := by
  obtain ⟨_, plain, deep⟩ := parse_bounds_depth titleWhitelist {}
  have valid : ∃ query, clauses titleWhitelist {} emptyGroupFields = .valid query := ⟨_, rfl⟩
  obtain ⟨query, read⟩ := valid
  obtain ⟨measured, guarded⟩ := plain emptyGroupFields query read plainFilters_emptyGroupFields
  have depth : Filter.listDepth query.filters = 1 := measured
  rw [depth, if_neg (by decide)] at guarded
  exact ⟨⟨query, guarded, depth⟩, deep (.object nestedGroupFields) (by decide)⟩

end QueryGate.Request
