import QueryGate.Proofs.Request.Spelling
import QueryGate.Proofs.Success

/-!
# What the parser accepts

The parser accepts exactly the bodies of the grammar whose filters are not nested too
deeply, and the query that it makes of a body is the one that the body spells
(`parse_eq_ok_iff`). A check of a part is valid with a value exactly when the part
spells the value, and there is one such statement for each check. For filter lists it
goes by induction on the JSON value: nodes and lists of nodes at once.
-/

set_option autoImplicit false

namespace QueryGate

namespace Request

variable {α : Type} {key : String} {fields : List (String × Json)} {place : Place}

/-! ## Keys and lists -/

theorem clause_eq_valid_iff {absent : α} {read : Json → Validated α} {spells : Json → α → Prop}
    (same : ∀ json value, read json = .valid value ↔ spells json value) (value : α) :
    clause key fields absent read = .valid value ↔ Reads key fields absent spells value := by
  unfold clause Reads
  cases Json.present? key fields with
  | none => exact ⟨fun valid => (Validated.valid.inj valid).symm, fun eq => congrArg _ eq.symm⟩
  | some json => exact same json value

/-- A list checked item by item is valid exactly when every item spells its value. -/
theorem all_mapIdx_eq_valid_iff {β : Type} {check : Nat → β → Validated α} {spells : β → α → Prop}
    (same : ∀ position item value, check position item = .valid value ↔ spells item value)
    (items : List β) (values : List α) :
    Validated.all (items.mapIdx check) = .valid values ↔ List.Forall₂ spells items values := by
  rw [Validated.all_eq_valid_iff]
  induction items generalizing check values with
  | nil => cases values <;> simp
  | cons item items ih =>
      cases values with
      | nil => simp
      | cons value values =>
          rw [List.mapIdx_cons, List.map_cons, List.cons.injEq, List.forall₂_cons, same,
            ih fun position => same (position + 1)]

/-! ## Single values -/

theorem flag?_eq_some_iff (json : Json) (value : Bool) :
    flag? json = some value ↔ SpellsFlag json value := by
  constructor
  · intro found
    cases json with
    | bool literal =>
        cases found
        exact .literal value
    | int number =>
        simp only [flag?] at found
        split at found
        · next zero =>
            cases found
            rw [zero]
            exact .zero
        · split at found
          · next one =>
              cases found
              rw [one]
              exact .one
          · cases found
    | text text =>
        simp only [flag?, flagOfText?] at found
        split at found
        · next yes =>
            cases found
            exact .yes text (List.contains_iff_mem.mp yes)
        · split at found
          · next no =>
              cases found
              exact .no text (List.contains_iff_mem.mp no)
          · cases found
    | null => cases found
    | float _ => cases found
    | array _ => cases found
    | object _ => cases found
  · intro spelled
    cases spelled with
    | literal => rfl
    | zero => rfl
    | one => rfl
    | yes text among => exact if_pos (List.contains_iff_mem.mpr among)
    | no text among =>
        have apart : ∀ word ∈ noWords, yesWords.contains word = false := by decide
        have notYes := apart _ among
        unfold lowered at among notYes
        simp only [flag?, flagOfText?, notYes, List.contains_iff_mem.mpr among]
        rfl

theorem inFieldName_iff (character : Char) :
    inFieldName character = true ↔
      Text.isWord character = true ∨ character = '.' ∨ character = '-' ∨ character = '>' := by
  rw [inFieldName, Bool.or_eq_true, List.contains_iff_mem]
  simp only [List.mem_cons, List.not_mem_nil, or_false]
  rw [or_comm (a := character = '>')]

theorem isFieldName_iff (name : String) :
    isFieldName name = true ↔ name.toList ≠ [] ∧ ∀ character ∈ name.toList,
      Text.isWord character = true ∨ character = '.' ∨ character = '-' ∨ character = '>' := by
  rw [isFieldName, Bool.and_eq_true, Bool.not_eq_true', List.all_eq_true]
  exact and_congr List.isEmpty_eq_false_iff
    (forall_congr' fun character => imp_congr_right fun _ => inFieldName_iff character)

theorem occursIn_iff (part text : List Char) : Text.occursIn part text = true ↔ part <:+: text := by
  induction text with
  | nil => rw [Text.occursIn, List.isEmpty_iff, List.infix_nil]
  | cons character rest ih =>
      rw [Text.occursIn, Bool.or_eq_true, ih, List.infix_cons_iff, Option.isSome_iff_exists]
      refine or_congr_left ?_
      constructor
      · rintro ⟨after, found⟩
        exact ⟨after, ((Text.afterStart_eq_some_iff _ _ _).mp found).symm⟩
      · rintro ⟨after, same⟩
        exact ⟨after, (Text.afterStart_eq_some_iff _ _ _).mpr same.symm⟩

theorem legalName_iff (name : String) :
    LegalName name ↔
      isFieldName name = true ∧ ¬ Text.occursIn ['-', '>'] name.toList = true := by
  rw [isFieldName_iff, occursIn_iff]
  exact ⟨fun legal => ⟨⟨legal.nonempty, legal.characters⟩, legal.arrowless⟩,
    fun legal => ⟨legal.1.1, legal.1.2, legal.2⟩⟩

/-- The field name of an object is legal. -/
theorem fieldName_eq_valid_iff (whenMissing : Reason) (name : String) :
    fieldName place whenMissing fields = .valid name ↔
      Json.present? "field" fields = some (.text name) ∧ LegalName name := by
  rw [legalName_iff]
  unfold fieldName
  cases found : Json.present? "field" fields with
  | none => exact ⟨fun refused => (nomatch refused), fun ⟨impossible, _⟩ => (nomatch impossible)⟩
  | some json =>
      cases json with
      | text given =>
          by_cases arrow : Text.occursIn ['-', '>'] given.toList = true
          · simp only [arrow, if_true]
            refine ⟨fun refused => (nomatch refused), fun ⟨same, legal⟩ => ?_⟩
            cases same
            exact absurd arrow legal.2
          · by_cases shaped : isFieldName given = true
            · simp only [arrow, shaped, if_true]
              constructor
              · intro valid
                cases valid
                exact ⟨rfl, shaped, arrow⟩
              · rintro ⟨same, _⟩
                cases same
                rfl
            · simp only [arrow, shaped]
              refine ⟨fun refused => (nomatch refused), fun ⟨same, legal⟩ => ?_⟩
              cases same
              exact absurd legal.1 shaped
      | _ => exact ⟨fun refused => (nomatch refused), fun ⟨impossible, _⟩ => (nomatch impossible)⟩

/-- A field name that is admitted, where filters and orders differ in what they admit
and in how they refuse. -/
theorem admittedName_eq_valid_iff (whenMissing : Reason) (admits : String → Bool)
    (refuse : String → Validated String) (invalid : ∀ name value, refuse name ≠ .valid value)
    (name : String) :
    ((fieldName place whenMissing fields).andThen fun name =>
        if admits name then .valid name else refuse name) = .valid name ↔
      Given "field" fields fun json => SpellsName admits json name := by
  simp only [Validated.andThen_eq_valid_iff, fieldName_eq_valid_iff]
  constructor
  · rintro ⟨given, ⟨found, legal⟩, checked⟩
    split at checked
    · next admitted =>
        cases checked
        exact ⟨.text name, found, rfl, legal, admitted⟩
    · exact absurd checked (invalid given name)
  · rintro ⟨json, found, rfl, legal, admitted⟩
    exact ⟨name, ⟨found, legal⟩, if_pos admitted⟩

theorem filterField_eq_valid_iff (whitelist : Whitelist) (name : String) :
    filterField whitelist place fields = .valid name ↔
      Given "field" fields fun json => SpellsName whitelist.canFilter json name :=
  admittedName_eq_valid_iff _ whitelist.canFilter
    (fun name => .reject (place ++ [.key "field"]) (.notFilterable name))
    (fun _ _ refused => (nomatch refused)) name

theorem sortField_eq_valid_iff (whitelist : Whitelist) (name : String) :
    sortField whitelist place fields = .valid name ↔
      Given "field" fields fun json => SpellsName whitelist.canSort json name :=
  admittedName_eq_valid_iff _ whitelist.canSort
    (fun name => .reject (place ++ [.key "field"]) (.notSortable name))
    (fun _ _ refused => (nomatch refused)) name

/-! ## Words -/

theorem combinator_ofText?_eq_some_iff (word : String) (combinator : Combinator) :
    Combinator.ofText? word = some combinator ↔ word = combinator.text := by
  unfold Combinator.ofText?
  constructor
  · intro found
    split at found
    · next same =>
        cases found
        exact same
    · split at found
      · next same =>
          cases found
          exact same
      · cases found
  · rintro rfl
    cases combinator <;> decide

theorem operator_ofText?_eq_some_iff (spelling : String) (operator : Operator) :
    Operator.ofText? spelling = some operator ↔ spelling = operator.text := by
  constructor
  · intro found
    have same := List.find?_some (show List.find? _ Operator.list = some operator from found)
    exact (beq_iff_eq.mp same).symm
  · rintro rfl
    exact Operator.ofText?_text operator

theorem direction_ofText?_eq_some_iff (word : String) (direction : Sql.Direction) :
    Sql.Direction.ofText? word = some direction ↔ lowered word = direction.text := by
  unfold Sql.Direction.ofText? lowered
  constructor
  · intro found
    split at found
    · next same =>
        cases found
        exact same
    · next same =>
        cases found
        exact same
    · cases found
  · intro same
    rw [same]
    cases direction <;> rfl

theorem combinator_eq_valid_iff (kind : Combinator) :
    combinator place fields = .valid kind ↔ Reads "type" fields .and SpellsCombinator kind := by
  unfold combinator Reads
  cases Json.present? "type" fields with
  | none => exact ⟨fun valid => (Validated.valid.inj valid).symm, fun same => congrArg _ same.symm⟩
  | some json =>
      cases json with
      | text word =>
          have same : SpellsCombinator (.text word) kind ↔ Combinator.ofText? word = some kind := by
            rw [combinator_ofText?_eq_some_iff]
            exact Json.text.injEq _ _ ▸ Iff.rfl
          refine Iff.trans ?_ same.symm
          dsimp only
          cases Combinator.ofText? word <;> simp [Validated.reject]
      | _ =>
          constructor
          · intro refused
            cases refused
          · intro impossible
            cases impossible

theorem operator?_eq_valid_iff (given : Option Operator) :
    operator? place fields = .valid given ↔
      Reads "operator" fields none
        (fun json given => ∃ operator, SpellsOperator json operator ∧ given = some operator)
        given := by
  unfold operator? Reads
  cases Json.present? "operator" fields with
  | none => exact ⟨fun valid => (Validated.valid.inj valid).symm, fun same => congrArg _ same.symm⟩
  | some json =>
      cases json with
      | text spelling =>
          have same (operator : Operator) :
              SpellsOperator (.text spelling) operator ↔
                Operator.ofText? spelling = some operator := by
            rw [operator_ofText?_eq_some_iff]
            exact Json.text.injEq _ _ ▸ Iff.rfl
          simp only [same]
          cases Operator.ofText? spelling <;> simp [Validated.reject, eq_comm]
      | _ =>
          constructor
          · intro refused
            cases refused
          · rintro ⟨_, impossible, _⟩
            cases impossible

theorem sortDirection_eq_valid_iff (direction : Sql.Direction) :
    sortDirection place fields = .valid direction ↔
      Reads "direction" fields .ascending SpellsDirection direction := by
  unfold sortDirection Reads
  cases Json.present? "direction" fields with
  | none => exact ⟨fun valid => (Validated.valid.inj valid).symm, fun same => congrArg _ same.symm⟩
  | some json =>
      cases json with
      | text word =>
          have same : SpellsDirection (.text word) direction ↔
              Sql.Direction.ofText? word = some direction := by
            rw [direction_ofText?_eq_some_iff]
            constructor
            · rintro ⟨other, given, same⟩
              rw [Json.text.inj given]
              exact same
            · intro same
              exact ⟨word, rfl, same⟩
          refine Iff.trans ?_ same.symm
          dsimp only
          cases Sql.Direction.ofText? word <;> simp [Validated.reject]
      | _ =>
          constructor
          · intro refused
            cases refused
          · rintro ⟨_, impossible, _⟩
            cases impossible

/-! ## Filters -/

theorem scalar_eq_valid_iff (otherwise : Reason) (json : Json) (value : Scalar) :
    scalar place otherwise json = .valid value ↔ Scalar.ofJson? json = some value :=
  Validated.ofOption_eq_valid_iff _ _ _ _

/-- The value of a node is read from what is present, since `null` is no value. -/
theorem filterValue_eq_present (place : Place) (fields : List (String × Json)) :
    filterValue place fields =
      match Json.present? "value" fields with
      | none => .valid .null
      | some (.array items) =>
          (Validated.all (items.mapIdx fun position item =>
            scalar (place ++ [.key "value"] ++ [.index position]) .notScalar item)).map .list
      | some json => (scalar (place ++ [.key "value"]) .notScalarOrList json).map .scalar := by
  unfold filterValue Json.present?
  cases fields.lookup "value" with
  | none => rfl
  | some json => cases json <;> rfl

theorem filterValue_eq_valid_iff (value : FilterValue) :
    filterValue place fields = .valid value ↔ SpellsValue fields value := by
  rw [filterValue_eq_present]
  cases found : Json.present? "value" fields with
  | none =>
      constructor
      · intro valid
        cases valid
        exact .missing found
      · intro spelled
        cases spelled with
        | missing _ => rfl
        | scalar other _ => cases found.symm.trans other
        | list other _ => cases found.symm.trans other
  | some json =>
      have spelled : SpellsValue fields value ↔
          (∃ scalar, Scalar.ofJson? json = some scalar ∧ .scalar scalar = value) ∨
            ∃ scalars, SpellsScalars json scalars ∧ .list scalars = value := by
        constructor
        · intro spells
          cases spells with
          | missing absent => cases found.symm.trans absent
          | scalar other read =>
              cases found.symm.trans other
              exact .inl ⟨_, read, rfl⟩
          | list other read =>
              cases found.symm.trans other
              exact .inr ⟨_, read, rfl⟩
        · rintro (⟨scalar, read, rfl⟩ | ⟨scalars, read, rfl⟩)
          · exact .scalar found read
          · exact .list found read
      rw [spelled]
      cases json with
      | array items =>
          simp only [Validated.map_eq_valid_iff,
            all_mapIdx_eq_valid_iff fun _ => scalar_eq_valid_iff .notScalar]
          constructor
          · rintro ⟨scalars, read, rfl⟩
            exact .inr ⟨scalars, ⟨items, rfl, read⟩, rfl⟩
          · rintro (⟨scalar, impossible, _⟩ | ⟨scalars, ⟨_, same, read⟩, rfl⟩)
            · cases impossible
            · cases same
              exact ⟨scalars, read, rfl⟩
      | _ =>
          simp only [Validated.map_eq_valid_iff, scalar_eq_valid_iff]
          constructor
          · exact .inl
          · rintro (read | ⟨_, ⟨_, impossible, _⟩, _⟩)
            · exact read
            · cases impossible

theorem fit_eq_valid_iff (operator : Operator) (given : FilterValue)
    (parts : Operator × FilterValue) :
    fit place operator given = .valid parts ↔
      Takes operator given ∧ parts = (operator, adapted operator given) := by
  have checked (takes : Takes operator given) (whole : Operator × FilterValue)
      (same : whole = (operator, adapted operator given)) :
      (.valid whole : Validated (Operator × FilterValue)) = .valid parts ↔
        Takes operator given ∧ parts = (operator, adapted operator given) :=
    ⟨fun valid => ⟨takes, (Validated.valid.inj valid).symm.trans same⟩,
      fun both => congrArg _ (same.trans both.2.symm)⟩
  cases given with
  | null =>
      by_cases takes : operator.takesNull = true
      · rw [fit, if_pos takes]
        exact checked takes _ rfl
      · rw [fit, if_neg takes]
        exact ⟨fun refused => (nomatch refused), fun both => absurd both.1 takes⟩
  | scalar scalar => exact checked trivial _ rfl
  | list scalars =>
      by_cases takes : operator.isMembership = true
      · rw [fit, if_pos takes]
        exact checked takes _ rfl
      · rw [fit, if_neg takes]
        exact ⟨fun refused => (nomatch refused), fun both => absurd both.1 takes⟩

/-- An absent operator is the one that stands for it. -/
theorem exists_reads_getD_iff (default operator : Operator) :
    (∃ given, Reads "operator" fields none
        (fun json given => ∃ operator, SpellsOperator json operator ∧ given = some operator) given ∧
        given.getD default = operator) ↔
      Reads "operator" fields default SpellsOperator operator := by
  unfold Reads
  cases Json.present? "operator" fields with
  | none =>
      constructor
      · rintro ⟨given, rfl, same⟩
        exact same.symm
      · intro same
        exact ⟨none, rfl, same.symm⟩
  | some json =>
      constructor
      · rintro ⟨given, ⟨other, spelled, rfl⟩, rfl⟩
        exact spelled
      · intro spelled
        exact ⟨some operator, ⟨operator, spelled, rfl⟩, rfl⟩

theorem comparison_eq_valid_iff (parts : Operator × FilterValue) :
    comparison place fields = .valid parts ↔ SpellsComparison fields parts.1 parts.2 := by
  obtain ⟨operator, value⟩ := parts
  unfold comparison SpellsComparison
  simp only [Validated.andThen_eq_valid_iff, Validated.both_eq_valid_iff, filterValue_eq_valid_iff,
    operator?_eq_valid_iff, fit_eq_valid_iff, ← exists_reads_getD_iff]
  constructor
  · rintro ⟨⟨given, spelling⟩, ⟨spelled, read⟩, takes, same⟩
    cases same
    exact ⟨given, spelled, ⟨spelling, read, rfl⟩, takes, rfl⟩
  · rintro ⟨given, spelled, ⟨spelling, read, rfl⟩, takes, rfl⟩
    exact ⟨(given, spelling), ⟨spelled, read⟩, takes, rfl⟩

theorem fieldBeside_eq_valid_iff (whitelist : Whitelist) (done : Unit) :
    fieldBeside whitelist place fields = .valid done ↔
      AbsentOr "field" fields (IsName whitelist.canFilter) := by
  unfold fieldBeside AbsentOr
  cases found : Json.present? "field" fields with
  | none => exact ⟨fun _ _ impossible => (nomatch impossible), fun _ => rfl⟩
  | some json =>
      simp only [Validated.map_eq_valid_iff, filterField_eq_valid_iff]
      constructor
      · rintro ⟨name, ⟨other, given, named⟩, _⟩ _ same
        cases found.symm.trans given
        cases same
        exact ⟨name, named⟩
      · intro named
        obtain ⟨name, spelled⟩ := named json rfl
        exact ⟨name, ⟨json, found, spelled⟩, trivial⟩

/-- A node without nested filters spells a test. -/
theorem leaf_eq_valid_iff (whitelist : Whitelist) (filter : Filter)
    (absent : Json.present? "nested" fields = none) :
    leaf whitelist place fields = .valid filter ↔
      SpellsFilter whitelist (.object fields) filter := by
  unfold leaf
  simp only [Validated.map_eq_valid_iff, Validated.both_eq_valid_iff, combinator_eq_valid_iff,
    filterField_eq_valid_iff, comparison_eq_valid_iff]
  constructor
  · rintro ⟨⟨kind, name, operator, value⟩, ⟨type, field, compared⟩, rfl⟩
    exact .test type field absent compared
  · intro spelled
    cases spelled with
    | group _ _ nested _ => cases absent.symm.trans nested
    | test type field _ compared => exact ⟨(_, _, _, _), ⟨type, field, compared⟩, rfl⟩

/-- A node with nested filters spells a group of what they spell. -/
theorem group_eq_valid_iff (whitelist : Whitelist) (filter : Filter) {json : Json}
    (found : Json.present? "nested" fields = some json) {nested : Validated (List Filter)}
    (same : ∀ members, nested = .valid members ↔ SpellsFilterList whitelist json members) :
    group whitelist place fields nested = .valid filter ↔
      SpellsFilter whitelist (.object fields) filter := by
  unfold group
  simp only [Validated.map_eq_valid_iff, Validated.both_eq_valid_iff, combinator_eq_valid_iff,
    fieldBeside_eq_valid_iff, same]
  constructor
  · rintro ⟨⟨kind, _, members⟩, ⟨type, beside, items, rfl, spelled⟩, rfl⟩
    exact .group type beside found spelled
  · intro spelled
    cases spelled with
    | group type beside nested members =>
        cases found.symm.trans nested
        exact ⟨(_, (), _), ⟨type, beside, _, rfl, members⟩, rfl⟩
    | test _ _ absent _ => cases found.symm.trans absent

/-- A field under another key changes nothing for a key. -/
theorem present?_cons_of_ne {other : String} (different : other ≠ key) (value : Json)
    (fields : List (String × Json)) :
    Json.present? key ((other, value) :: fields) = Json.present? key fields := by
  have unequal : (key == other) = false := beq_eq_false_iff_ne.mpr different.symm
  rw [Json.present?, List.lookup_cons, unequal]
  rfl

/-- The nested filters of a node are those under the key. -/
theorem nestedFilters_eq (whitelist : Whitelist) (place : Place) (fields : List (String × Json)) :
    nestedFilters whitelist place fields =
      (Json.present? "nested" fields).map (filterList whitelist (place ++ [.key "nested"])) := by
  induction fields with
  | nil => rw [nestedFilters]; rfl
  | cons entry fields ih =>
      obtain ⟨key, value⟩ := entry
      rw [nestedFilters]
      by_cases same : key = "nested"
      · rw [if_pos same, same]
        cases value <;> rfl
      · rw [if_neg same, ih, present?_cons_of_ne same]

theorem mem_of_present? {json : Json} (found : Json.present? key fields = some json) :
    (key, json) ∈ fields := by
  obtain ⟨held, _⟩ := (Json.present?_eq_some_iff _ _ _).mp found
  obtain ⟨before, after, rfl, _⟩ := List.lookup_eq_some_iff.mp held
  exact List.mem_append_right before List.mem_cons_self

theorem filterItems_eq_valid_iff (whitelist : Whitelist) {items : List Json}
    (each : ∀ item ∈ items, ∀ (place : Place) (filter : Filter),
      filterNode whitelist place item = .valid filter ↔ SpellsFilter whitelist item filter)
    (place : Place) (position : Nat) (filters : List Filter) :
    filterItems whitelist place position items = .valid filters ↔
      SpellsFilters whitelist items filters := by
  induction items generalizing position filters with
  | nil =>
      rw [filterItems]
      constructor
      · intro valid
        cases valid
        exact .nil
      · intro spelled
        cases spelled
        rfl
  | cons item items ih =>
      obtain ⟨here, there⟩ := List.forall_mem_cons.mp each
      rw [filterItems]
      simp only [Validated.map_eq_valid_iff, Validated.both_eq_valid_iff, here, ih there]
      constructor
      · rintro ⟨⟨filter, filters⟩, ⟨first, others⟩, rfl⟩
        exact .cons first others
      · intro spelled
        cases spelled with
        | cons first others => exact ⟨(_, _), ⟨first, others⟩, rfl⟩

theorem filterNode_of_not_object (whitelist : Whitelist) {json : Json}
    (bare : ∀ fields, json = .object fields → False) (place : Place) (filter : Filter) :
    filterNode whitelist place json = .valid filter ↔ SpellsFilter whitelist json filter := by
  rw [filterNode]
  · refine ⟨fun refused => (nomatch refused), fun spelled => ?_⟩
    cases spelled with
    | group _ _ _ _ => exact absurd rfl (bare _)
    | test _ _ _ _ => exact absurd rfl (bare _)
  · exact bare

theorem filterList_of_not_array (whitelist : Whitelist) {json : Json}
    (bare : ∀ items, json = .array items → False) (place : Place) (filters : List Filter) :
    filterList whitelist place json = .valid filters ↔
      SpellsFilterList whitelist json filters := by
  rw [filterList]
  · refine ⟨fun refused => (nomatch refused), ?_⟩
    rintro ⟨items, rfl, _⟩
    exact absurd rfl (bare items)
  · exact bare

/-- Nodes and lists of nodes at once: the items of an array are nodes, and the nested
filters of a node are a list. -/
theorem filters_eq_valid_iff (whitelist : Whitelist) (json : Json) :
    (∀ (place : Place) (filter : Filter),
        filterNode whitelist place json = .valid filter ↔ SpellsFilter whitelist json filter) ∧
      ∀ (place : Place) (filters : List Filter),
        filterList whitelist place json = .valid filters ↔
          SpellsFilterList whitelist json filters := by
  induction json using Json.members_induction with
  | single json bare =>
      refine ⟨filterNode_of_not_object whitelist ?_, filterList_of_not_array whitelist ?_⟩
      · rintro fields rfl
        cases bare
      · rintro items rfl
        cases bare
  | array items ih =>
      refine ⟨filterNode_of_not_object whitelist fun _ impossible => (nomatch impossible), ?_⟩
      intro place filters
      rw [filterList, filterItems_eq_valid_iff whitelist fun item member => (ih item member).1]
      constructor
      · intro spelled
        exact ⟨items, rfl, spelled⟩
      · rintro ⟨_, same, spelled⟩
        cases same
        exact spelled
  | object fields ih =>
      refine ⟨?_, filterList_of_not_array whitelist fun _ impossible => (nomatch impossible)⟩
      intro place filter
      rw [filterNode, nestedFilters_eq]
      cases found : Json.present? "nested" fields with
      | none => exact leaf_eq_valid_iff whitelist filter found
      | some json =>
          exact group_eq_valid_iff whitelist filter found
            ((ih (_, json) (mem_of_present? found)).2 (place ++ [.key "nested"]))

/-! ## The other clauses -/

theorem entries_eq_valid_iff {entryName : String}
    {read : Place → List (String × Json) → Validated α} {spells : List (String × Json) → α → Prop}
    (same : ∀ place fields value, read place fields = .valid value ↔ spells fields value)
    (json : Json) (values : List α) :
    entries key entryName read json = .valid values ↔ SpellsEntries spells json values := by
  cases json with
  | array items =>
      refine (all_mapIdx_eq_valid_iff ?_ items values).trans
        ⟨fun spelled => ⟨items, rfl, spelled⟩, ?_⟩
      · intro position item value
        cases item with
        | object fields =>
            refine (same _ fields value).trans ⟨fun spelled => ⟨fields, rfl, spelled⟩, ?_⟩
            rintro ⟨_, given, spelled⟩
            cases given
            exact spelled
        | _ =>
            constructor
            · intro refused
              cases refused
            · rintro ⟨_, impossible, _⟩
              cases impossible
      · rintro ⟨_, given, spelled⟩
        cases given
        exact spelled
  | _ =>
      constructor
      · intro refused
        cases refused
      · rintro ⟨_, impossible, _⟩
        cases impossible

theorem requiredText_eq_valid_iff (text : String) :
    requiredText place key fields = .valid text ↔ Json.present? key fields = some (.text text) := by
  unfold requiredText
  cases Json.present? key fields with
  | none => exact ⟨fun refused => (nomatch refused), fun impossible => (nomatch impossible)⟩
  | some json => cases json <;> simp [Validated.reject]

theorem scope_eq_valid_iff (whitelist : Whitelist) (place : Place) (fields : List (String × Json))
    (call : ScopeCall) :
    (((scopeName whitelist place fields).both (scopeParameters place fields)).map fun parts =>
        (⟨parts.1, parts.2⟩ : ScopeCall)) = .valid call ↔ SpellsScope whitelist fields call := by
  have named (name : String) : scopeName whitelist place fields = .valid name ↔
      Json.present? "name" fields = some (.text name) ∧ whitelist.exposesScope name = true := by
    simp only [scopeName, Validated.andThen_eq_valid_iff, requiredText_eq_valid_iff]
    constructor
    · rintro ⟨given, found, checked⟩
      split at checked
      · next exposed =>
          cases checked
          exact ⟨found, exposed⟩
      · cases checked
    · rintro ⟨found, exposed⟩
      exact ⟨name, found, if_pos exposed⟩
  have listed (parameters : List Json) : scopeParameters place fields = .valid parameters ↔
      Reads "parameters" fields [] (fun json items => json = .array items) parameters := by
    unfold scopeParameters Reads
    cases Json.present? "parameters" fields with
    | none =>
        exact ⟨fun valid => (Validated.valid.inj valid).symm, fun same => congrArg _ same.symm⟩
    | some json => cases json <;> simp [Validated.reject]
  simp only [Validated.map_eq_valid_iff, Validated.both_eq_valid_iff, named, listed]
  constructor
  · rintro ⟨parts, ⟨⟨found, exposed⟩, read⟩, rfl⟩
    exact ⟨found, exposed, read⟩
  · rintro ⟨found, exposed, read⟩
    exact ⟨(call.name, call.parameters), ⟨⟨found, exposed⟩, read⟩, rfl⟩

theorem order_eq_valid_iff (whitelist : Whitelist) (place : Place) (fields : List (String × Json))
    (order : SortKey) :
    (((sortField whitelist place fields).both (sortDirection place fields)).map fun parts =>
        (⟨parts.1, parts.2⟩ : SortKey)) = .valid order ↔ SpellsOrder whitelist fields order := by
  simp only [Validated.map_eq_valid_iff, Validated.both_eq_valid_iff, sortField_eq_valid_iff,
    sortDirection_eq_valid_iff]
  constructor
  · rintro ⟨parts, ⟨field, direction⟩, rfl⟩
    exact ⟨field, direction⟩
  · rintro ⟨field, direction⟩
    exact ⟨(order.field, order.direction), ⟨field, direction⟩, rfl⟩

theorem ofOption_flag?_eq_valid_iff (reason : Reason) (json : Json) (value : Bool) :
    Validated.ofOption (flag? json) place reason = .valid value ↔ SpellsFlag json value :=
  (Validated.ofOption_eq_valid_iff _ _ _ _).trans (flag?_eq_some_iff json value)

theorem search_eq_valid_iff (config : Config) (json : Json) (term : Option SearchTerm) :
    search config json = .valid term ↔ SpellsSearch config json term := by
  cases json with
  | object fields =>
      have regarded (caseSensitive : Bool) : searchCase config fields = .valid caseSensitive ↔
          Reads "case_sensitive" fields config.caseSensitiveSearch SpellsFlag caseSensitive :=
        clause_eq_valid_iff
          (fun json value =>
            ofOption_flag?_eq_valid_iff (.notFlag "case sensitive flag") json value)
          caseSensitive
      have valued (text : Option String) : searchValue? fields = .valid text ↔
          Reads "value" fields none
            (fun json text => ∃ value, json = .text value ∧ text = some value) text := by
        unfold searchValue? Reads
        cases Json.present? "value" fields with
        | none =>
            exact ⟨fun valid => (Validated.valid.inj valid).symm, fun same => congrArg _ same.symm⟩
        | some json => cases json <;> simp [Validated.reject, eq_comm]
      have formed : search config (.object fields) =
          ((searchCase config fields).both (searchValue? fields)).map fun parts =>
            searchTerm? parts.1 parts.2 := by
        refine congrArg ((searchCase config fields).both (searchValue? fields)).map ?_
        funext parts
        obtain ⟨caseSensitive, text⟩ := parts
        cases text with
        | none => rfl
        | some value => by_cases empty : value = "" <;> simp [searchTerm?, Option.filter, empty]
      simp only [formed, Validated.map_eq_valid_iff, Validated.both_eq_valid_iff, regarded, valued]
      constructor
      · rintro ⟨parts, ⟨flag, text⟩, rfl⟩
        exact ⟨fields, parts.1, parts.2, rfl, flag, text, rfl⟩
      · rintro ⟨_, caseSensitive, text, same, flag, read, rfl⟩
        cases same
        exact ⟨(caseSensitive, text), ⟨flag, read⟩, rfl⟩
  | _ =>
      constructor
      · intro refused
        cases refused
      · rintro ⟨_, _, _, impossible, _⟩
        cases impossible

theorem trashed_eq_valid_iff (visibility : Trashed) :
    trashed fields = .valid visibility ↔ SpellsTrashed fields visibility := by
  have flag (key : String) (value : Bool) :
      requestFlag key fields = .valid value ↔ Reads key fields false SpellsFlag value :=
    clause_eq_valid_iff (fun json value => ofOption_flag?_eq_valid_iff (.notFlag "flag") json value)
      value
  simp only [trashed, Validated.map_eq_valid_iff, Validated.both_eq_valid_iff, flag]
  constructor
  · rintro ⟨parts, ⟨included, restricted⟩, rfl⟩
    exact ⟨parts.1, parts.2, included, restricted, rfl⟩
  · rintro ⟨withTrashed, onlyTrashed, included, restricted, rfl⟩
    exact ⟨(withTrashed, onlyTrashed), ⟨included, restricted⟩, rfl⟩

/-! ## Bodies -/

theorem clauses_eq_valid_iff (whitelist : Whitelist) (config : Config)
    (fields : List (String × Json)) (query : Query) :
    clauses whitelist config fields = .valid query ↔
      SpellsRequest whitelist config fields query := by
  unfold clauses scopes sorting
  simp only [Validated.map_eq_valid_iff, Validated.both_eq_valid_iff, trashed_eq_valid_iff,
    clause_eq_valid_iff (entries_eq_valid_iff (scope_eq_valid_iff whitelist)),
    clause_eq_valid_iff (entries_eq_valid_iff (order_eq_valid_iff whitelist)),
    clause_eq_valid_iff (search_eq_valid_iff config),
    clause_eq_valid_iff fun json => (filters_eq_valid_iff whitelist json).2 [.key "filters"]]
  constructor
  · rintro ⟨⟨scopes, filters, search, sorting, trashed⟩, ⟨called, filtered, searched, sorted, seen⟩,
      rfl⟩
    exact ⟨called, filtered, searched, sorted, seen⟩
  · rintro ⟨called, filtered, searched, sorted, seen⟩
    exact ⟨(_, _, _, _, _), ⟨called, filtered, searched, sorted, seen⟩, rfl⟩

theorem accept_eq_ok_iff (checked : Validated α) (value : α) :
    accept checked = .ok value ↔ checked = .valid value := by
  cases checked <;> simp [accept]

theorem guardDepth_eq_ok_iff (config : Config) (fields : List (String × Json)) :
    guardDepth config fields = .ok () ↔ PassesDepth config (.object fields) := by
  have fieldwise : PassesDepth config (.object fields) ↔
      AbsentOr "filters" fields fun filters => filterDepth filters ≤ config.maxNestedDepth := by
    constructor
    · intro passes
      exact passes fields rfl
    · rintro passes _ same
      cases same
      exact passes
  rw [fieldwise]
  unfold guardDepth AbsentOr
  cases Json.present? "filters" fields with
  | none => exact ⟨fun _ _ impossible => (nomatch impossible), fun _ => rfl⟩
  | some filters =>
      have checked : checkFilterDepth filters config.maxNestedDepth = .ok () ↔
          filterDepth filters ≤ config.maxNestedDepth := by
        unfold checkFilterDepth
        split
        · next deep => exact ⟨fun refused => (nomatch refused), fun flat => absurd flat (by omega)⟩
        · next flat => exact ⟨fun _ => by omega, fun _ => rfl⟩
      refine checked.trans ⟨fun flat other same => ?_, fun all => all filters rfl⟩
      cases same
      exact flat

/-- The query of a body is the one that it spells. -/
theorem parse_eq_ok_iff (whitelist : Whitelist) (config : Config) (body : Json) (query : Query) :
    parse whitelist config body = .ok query ↔
      PassesDepth config body ∧ SpellsBody whitelist config body query := by
  have free (single : ∀ fields, body ≠ .object fields) : PassesDepth config body :=
    fun fields same => absurd same (single fields)
  cases body with
  | null =>
      constructor
      · intro made
        cases made
        exact ⟨free fun _ impossible => (nomatch impossible), .empty⟩
      · rintro ⟨_, spelled⟩
        cases spelled
        rfl
  | object fields =>
      rw [parse, Success.bind_eq_ok_iff]
      simp only [accept_eq_ok_iff, clauses_eq_valid_iff]
      constructor
      · rintro ⟨_, passes, spelled⟩
        exact ⟨(guardDepth_eq_ok_iff config fields).mp passes, .object spelled⟩
      · rintro ⟨passes, spelled⟩
        cases spelled with
        | object spelled => exact ⟨(), (guardDepth_eq_ok_iff config fields).mpr passes, spelled⟩
  | _ => exact ⟨fun refused => (nomatch refused), fun ⟨_, impossible⟩ => (nomatch impossible)⟩

/-- The failure of an object is one of its rules. -/
theorem status_of_parse_object (whitelist : Whitelist) (config : Config)
    (fields : List (String × Json)) (failure : Failure)
    (failed : parse whitelist config (.object fields) = .error failure) :
    failure.status = .unprocessable := by
  rw [parse] at failed
  cases guarded : guardDepth config fields with
  | error refusal =>
      rw [guarded] at failed
      cases failed
      unfold guardDepth at guarded
      cases found : Json.present? "filters" fields with
      | none =>
          rw [found] at guarded
          cases guarded
      | some filters =>
          rw [found] at guarded
          simp only [checkFilterDepth] at guarded
          split at guarded
          · cases guarded
            rfl
          · cases guarded
  | ok _ =>
      rw [guarded] at failed
      cases checked : clauses whitelist config fields with
      | valid query =>
          rw [checked] at failed
          cases failed
      | invalid first others =>
          rw [checked] at failed
          cases failed
          rfl

/-- A body is refused as unreadable exactly when it is neither `null` nor an object.
Every other body makes a query exactly when its filters are not nested too deeply and
it is in the grammar, and then the query is what the body spells, with nothing left
out. -/
theorem parse_accepts_grammar (whitelist : Whitelist) (config : Config) (body : Json) :
    ((∃ failure, parse whitelist config body = .error failure ∧ failure.status.code = 400) ↔
      body ≠ .null ∧ ∀ fields, body ≠ .object fields) ∧
    ((∃ query, parse whitelist config body = .ok query) ↔
      PassesDepth config body ∧ IsBody whitelist body) ∧
    ∀ query, parse whitelist config body = .ok query ↔
      PassesDepth config body ∧ SpellsBody whitelist config body query := by
  refine ⟨?_, ?_, parse_eq_ok_iff whitelist config body⟩
  · constructor
    · rintro ⟨failure, failed, code⟩
      constructor
      · rintro rfl
        cases failed
      · rintro fields rfl
        rw [status_of_parse_object whitelist config fields failure failed] at code
        cases code
    · rintro ⟨notNull, notObject⟩
      cases body with
      | null => exact absurd rfl notNull
      | object fields => exact absurd rfl (notObject fields)
      | _ => exact ⟨_, rfl, rfl⟩
  · simp only [parse_eq_ok_iff, isBody_iff whitelist config]
    exact exists_and_left

end Request

end QueryGate
