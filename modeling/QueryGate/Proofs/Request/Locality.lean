import QueryGate.Proofs.Request.Integers
import QueryGate.Proofs.Request.Placement
import QueryGate.Proofs.Request.Widening

/-!
# Violations are local

What is reported of an entry depends on the entry alone. Two bodies that differ in one
entry of the scopes, of the orders or of a filter list, however deep it is nested, are told
the same of everything else, in the same order, and putting one entry right takes nothing
away but what was reported of it.

So the report of a body is put together from what is reported of its parts alone: the
clauses one after another, in each list the entries one after another, and in a group its
own violations before those of its nested entries (`violations_local`). The report of an
entry alone is that of a body that holds nothing else, moved to the place of the entry.

For filters it goes by induction on the place of the entry; a group is checked apart from
its nested list, and a list entry by entry.
-/

set_option autoImplicit false

namespace QueryGate

/-! ## Reports outside of a place -/

/-- The violations that lie neither at the place nor below it. -/
def outside (place : Place) (violations : List Violation) : List Violation :=
  violations.filter fun violation => ¬ place <+: violation.place

theorem outside_append (place : Place) (first second : List Violation) :
    outside place (first ++ second) = outside place first ++ outside place second :=
  List.filter_append first second

/-- Everything lies at no place at all or below it. -/
theorem outside_nil (violations : List Violation) : outside [] violations = [] := by
  refine List.filter_eq_nil_iff.mpr fun violation _ kept => ?_
  exact of_decide_eq_true kept List.nil_prefix

/-- Below a place, what lies outside stays outside. -/
theorem outside_map_under (outer place : Place) (violations : List Violation) :
    outside (outer ++ place) (violations.map (Violation.under outer)) =
      (outside place violations).map (Violation.under outer) := by
  have same (violation : Violation) :
      outer ++ place <+: (violation.under outer).place ↔ place <+: violation.place :=
    List.prefix_append_right_inj outer
  rw [outside, outside, List.filter_map]
  refine congrArg (List.map _) (List.filter_congr fun violation _ => ?_)
  rw [Function.comp_apply, decide_eq_decide, same]

/-- Lists of entries that differ in one entry have the same reports outside of a part of it,
when the entry has. -/
theorem outside_reportEach {report : Json → List Violation} {inner : Place} {first second : Json}
    (same : outside inner (report first) = outside inner (report second)) (place : Place)
    (front back : List Json) :
    outside (place ++ .index front.length :: inner)
        (reportEach place report (front ++ first :: back)) =
      outside (place ++ .index front.length :: inner)
        (reportEach place report (front ++ second :: back)) := by
  have entry (json : Json) :
      outside (place ++ .index front.length :: inner)
          ((report json).map (Violation.under (place ++ [.index front.length]))) =
        (outside inner (report json)).map (Violation.under (place ++ [.index front.length])) := by
    rw [← outside_map_under, List.append_assoc]
    rfl
  simp only [reportEach, List.mapIdx_append, List.mapIdx_cons, List.flatten_append,
    List.flatten_cons, outside_append, Nat.zero_add, entry, same]

/-- A violation that is below one place, as it is below another. -/
def Violation.moved (source target : Place) (violation : Violation) : Violation :=
  ⟨target ++ violation.place.drop source.length, violation.reason⟩

theorem Violation.moved_under (source target : Place) (violation : Violation) :
    (violation.under source).moved source target = violation.under target := by
  rw [moved, under, List.drop_left, under]

/-! ## Bodies that differ in one entry -/

/-- Two values that differ in nothing but the part at the place. -/
inductive DifferAt : Place → Json → Json → Prop where
  | here (first second : Json) : DifferAt [] first second
  | key {name : String} {front : List (String × Json)} (free : ∀ entry ∈ front, entry.1 ≠ name)
      (back : List (String × Json)) {place : Place} {first second : Json}
      (inside : DifferAt place first second) :
      DifferAt (.key name :: place) (.object (front ++ (name, first) :: back))
        (.object (front ++ (name, second) :: back))
  | index (front back : List Json) {place : Place} {first second : Json}
      (inside : DifferAt place first second) :
      DifferAt (.index front.length :: place) (.array (front ++ first :: back))
        (.array (front ++ second :: back))

/-- The steps from an entry of a filter list to itself or to an entry nested in it. -/
inductive NestedEntry : Place → Prop where
  | itself : NestedEntry []
  | nested (position : Nat) {place : Place} (inside : NestedEntry place) :
      NestedEntry (.key "nested" :: .index position :: place)

/-- The place of an entry: of the scopes, of the orders, or of a filter list at any level. -/
inductive EntryPlace : Place → Prop where
  | scope (position : Nat) : EntryPlace [.key "scopes", .index position]
  | order (position : Nat) : EntryPlace [.key "sort", .index position]
  | filter (position : Nat) {place : Place} (inside : NestedEntry place) :
      EntryPlace (.key "filters" :: .index position :: place)

namespace Request

variable (whitelist : Whitelist) (config : Config)

/-! ## Filters -/

/-- What is reported of an entry of a filter list. -/
def nodeReport (node : Json) : List Violation :=
  (filterNode whitelist [] node).violations

section Nodes

variable {front : List (String × Json)} (free : ∀ entry ∈ front, entry.1 ≠ "nested")
  (back : List (String × Json))

include free in
/-- A group is checked apart from its nested entries, and before them. -/
theorem nodeReport_nested (items : List Json) :
    nodeReport whitelist (.object (front ++ ("nested", .array items) :: back)) =
      nodeReport whitelist (.object (front ++ ("nested", .array []) :: back)) ++
        reportEach [.key "nested"] (nodeReport whitelist) items := by
  have type : "type" ≠ "nested" := by decide
  have field : "field" ≠ "nested" := by decide
  have found (list : List Json) :
      Json.present? "nested" (front ++ ("nested", .array list) :: back) = some (.array list) :=
    (Json.present?_eq_some_iff _ _ _).mpr ⟨lookup_around _ free back, rfl⟩
  have parts (list : List Json) :
      nodeReport whitelist (.object (front ++ ("nested", .array list) :: back)) =
        (combinator [] (front ++ back)).violations ++
          ((fieldBeside whitelist [] (front ++ back)).violations ++
            reportEach [.key "nested"] (nodeReport whitelist) list) := by
    rw [nodeReport, filterNode_object, found]
    dsimp only
    rw [group, Validated.violations_map, Validated.violations_both, Validated.violations_both,
      combinator_around type, fieldBeside_around whitelist field, List.nil_append,
      (checksEntries_filters whitelist "nested").violations]
    rfl
  rw [parts, parts, List.append_assoc, List.append_assoc]
  rfl

end Nodes

/-- Nodes that differ in an entry nested in them have the same reports outside of it. -/
theorem outside_nodeReport {place : Place} (nested : NestedEntry place) {first second : Json}
    (differ : DifferAt place first second) :
    outside place (nodeReport whitelist first) = outside place (nodeReport whitelist second) := by
  induction nested generalizing first second with
  | itself => rw [outside_nil, outside_nil]
  | nested position inside ih =>
      cases differ with
      | key free back listed =>
          cases listed with
          | index items more entry =>
              have same := outside_reportEach (ih entry) [.key "nested"] items more
              rw [nodeReport_nested whitelist free back (items ++ _ :: more),
                nodeReport_nested whitelist free back (items ++ _ :: more), outside_append,
                outside_append]
              exact congrArg (_ ++ ·) same

/-! ## Clauses -/

/-- What is reported of a body. -/
def bodyReport (body : Json) : List Violation :=
  reported (parse whitelist config body)

/-- What is reported of the value of a clause in a body that has no other clause. -/
def clauseAlone (key : String) (value : Json) : List Violation :=
  bodyReport whitelist config (.object [(key, value)])

/-- The keys of the lists of entries, and what is reported of an entry. -/
def entryReports : List (String × (Json → List Violation)) :=
  [("scopes", fun entry => (scopeEntry whitelist entry).violations),
    ("filters", nodeReport whitelist),
    ("sort", fun entry => (sortEntry whitelist entry).violations)]

/-- The keys of the clauses, in the order in which a body is walked. -/
def clauseKeys : List String :=
  ["scopes", "filters", "search", "sort", "with_trashed", "only_trashed"]

/-- What is reported of the value of a clause. -/
def clauseReport (key : String) (value : Json) : List Violation :=
  ((clauseReports whitelist config).lookup key).elim [] fun report => report value

/-- The report of a list is that of its entries. -/
theorem clauseReport_array {key : String} {report : Json → List Violation}
    (listed : (key, report) ∈ entryReports whitelist) (items : List Json) :
    clauseReport whitelist config key (.array items) = reportEach [.key key] report items := by
  simp only [entryReports, List.mem_cons, List.not_mem_nil, or_false, Prod.mk.injEq] at listed
  obtain ⟨rfl, rfl⟩ | ⟨rfl, rfl⟩ | ⟨rfl, rfl⟩ := listed
  · exact (checksEntries_scopes whitelist).violations items
  · exact (checksEntries_filters whitelist "filters").violations items
  · exact (checksEntries_sorting whitelist).violations items

variable {whitelist config}

/-- Of an object that is not nested too deeply, its clauses are reported. -/
theorem bodyReport_object {fields : List (String × Json)}
    (passes : PassesDepth config (.object fields)) :
    bodyReport whitelist config (.object fields) =
      clauseKeys.flatMap fun key =>
        (Json.present? key fields).elim [] (clauseReport whitelist config key) := by
  have guarded := (guardDepth_eq_ok_iff config fields).mpr passes
  have walked : bodyReport whitelist config (.object fields) =
      (clauses whitelist config fields).violations := by
    rw [bodyReport, parse, guarded, ← reported_accept]
    rfl
  rw [walked, violations_clauses]
  rfl

/-! ## One entry changed -/

/-- The list that a place of an entry begins with, and what is left of the place in the
entry of that list. -/
theorem exists_entryReport (whitelist : Whitelist) {place : Place} (entry : EntryPlace place) :
    ∃ key report, (key, report) ∈ entryReports whitelist ∧ ∃ position inner,
      place = .key key :: .index position :: inner ∧
      ∀ first second, DifferAt inner first second →
        outside inner (report first) = outside inner (report second) := by
  cases entry with
  | scope position =>
      refine ⟨_, _, .head _, position, [], rfl, fun first second _ => ?_⟩
      rw [outside_nil, outside_nil]
  | order position =>
      refine ⟨_, _, .tail _ (.tail _ (.head _)), position, [], rfl, fun first second _ => ?_⟩
      rw [outside_nil, outside_nil]
  | @filter position inner nested =>
      exact ⟨_, _, .tail _ (.head _), position, inner, rfl,
        fun first second differ => outside_nodeReport whitelist nested differ⟩

/-- Bodies that differ in one entry have the same report outside of it. -/
theorem outside_bodyReport {place : Place} (entry : EntryPlace place) {first second : Json}
    (differ : DifferAt place first second) (passesFirst : PassesDepth config first)
    (passesSecond : PassesDepth config second) :
    outside place (bodyReport whitelist config first) =
      outside place (bodyReport whitelist config second) := by
  obtain ⟨key, report, listed, _, inner, rfl, same⟩ := exists_entryReport whitelist entry
  cases differ with
  | @key _ front free back _ _ _ list =>
      cases list with
      | index items more inside =>
          have found (list : List Json) :
              Json.present? key (front ++ (key, .array list) :: back) = some (.array list) :=
            (Json.present?_eq_some_iff _ _ _).mpr ⟨lookup_around _ free back, rfl⟩
          rw [bodyReport_object passesFirst, bodyReport_object passesSecond, outside, outside,
            List.filter_flatMap, List.filter_flatMap]
          refine List.flatMap_congr fun other _ => ?_
          by_cases here : other = key
          · rw [here, found, found, Option.elim_some, Option.elim_some,
              clauseReport_array whitelist config listed,
              clauseReport_array whitelist config listed]
            exact outside_reportEach (same _ _ inside) [.key key] items more
          · rw [present?_around_of_ne here, present?_around_of_ne here]

/-- What is right at a place and below it has only the violations outside. -/
theorem outside_eq_self {place : Place} {violations : List Violation}
    (right : ∀ violation ∈ violations, ¬ place <+: violation.place) :
    outside place violations = violations :=
  List.filter_eq_self.mpr fun violation among => decide_eq_true (right violation among)

/-! ## Entries alone -/

/-- A clause alone is held to the depth of its value, where it is the filters. -/
theorem passesDepth_alone_iff (config : Config) (key : String) (value : Json) :
    PassesDepth config (.object [(key, value)]) ↔
      key = "filters" → value.isNull = false → filterDepth value ≤ config.maxNestedDepth := by
  have alone (filters : Json) : Json.present? "filters" [(key, value)] = some filters ↔
      key = "filters" ∧ value = filters ∧ value.isNull = false := by
    rw [Json.present?_eq_some_iff, List.lookup_cons]
    by_cases here : key = "filters"
    · simp +contextual [here]
    · simp [here, beq_eq_false_iff_ne.mpr (Ne.symm here)]
  constructor
  · intro passes named present
    exact passes _ rfl value ((alone value).mpr ⟨named, rfl, present⟩)
  · intro shallow fields same filters found
    cases same
    obtain ⟨named, rfl, present⟩ := (alone filters).mp found
    exact shallow named present

/-- The clauses of a body that passes the guard pass it alone. -/
theorem PassesDepth.clause {fields : List (String × Json)}
    (passes : PassesDepth config (.object fields)) {key : String} {value : Json}
    (held : fields.lookup key = some value) : PassesDepth config (.object [(key, value)]) := by
  refine (passesDepth_alone_iff config key value).mpr ?_
  rintro rfl present
  exact passes fields rfl value ((Json.present?_eq_some_iff _ _ _).mpr ⟨held, present⟩)

/-- With shallower entries a list still passes it. -/
theorem PassesDepth.shallower {key : String} {items others : List Json}
    (passes : PassesDepth config (.object [(key, .array items)]))
    (less : itemsDepth others ≤ itemsDepth items) :
    PassesDepth config (.object [(key, .array others)]) := by
  rw [passesDepth_alone_iff] at passes ⊢
  intro named _
  refine Nat.le_trans (Nat.div_le_div_right ?_) (passes named rfl)
  rw [containerDepth, containerDepth]
  exact less

theorem itemsDepth_singleton_le {item : Json} {items : List Json} (member : item ∈ items) :
    itemsDepth [item] ≤ itemsDepth items := by
  obtain ⟨front, back, rfl⟩ := List.append_of_mem member
  rw [List.append_cons, itemsDepth_append, itemsDepth_append]
  omega

/-- Where one part alone is reported of, the report is that of the part. -/
theorem flatMap_eq_of_single {keys : List String} (once : keys.Nodup) {key : String}
    (member : key ∈ keys) {report : String → List Violation}
    (elsewhere : ∀ other, other ≠ key → report other = []) : keys.flatMap report = report key := by
  obtain ⟨front, back, rfl⟩ := List.append_of_mem member
  obtain ⟨_, once, apart⟩ := List.nodup_append.mp once
  have before : ∀ other ∈ front, report other = [] := by
    intro other among
    exact elsewhere other (apart other among key List.mem_cons_self)
  have after : ∀ other ∈ back, report other = [] := by
    intro other among
    exact elsewhere other fun same => (List.nodup_cons.mp once).1 (same ▸ among)
  rw [List.flatMap_append, List.flatMap_cons, List.flatMap_eq_nil_iff.mpr before,
    List.flatMap_eq_nil_iff.mpr after, List.nil_append, List.append_nil]

theorem nodup_clauseKeys : clauseKeys.Nodup := by
  decide

/-- A clause alone is told what is reported of its value, unless it is `null`. -/
theorem clauseAlone_eq {key : String} (walked : key ∈ clauseKeys) {value : Json}
    (passes : PassesDepth config (.object [(key, value)])) :
    clauseAlone whitelist config key value =
      if value.isNull then [] else clauseReport whitelist config key value := by
  rw [clauseAlone, bodyReport_object passes,
    flatMap_eq_of_single nodup_clauseKeys walked fun other different => ?_]
  · rw [Json.present?, List.lookup_cons_self, Option.filter_some]
    cases value.isNull <;> rfl
  · rw [Json.present?, List.lookup_cons, beq_eq_false_iff_ne.mpr different]
    rfl

/-- The report of a body is that of its clauses alone, in the order in which they are
walked. -/
theorem bodyReport_eq_flatMap {fields : List (String × Json)}
    (passes : PassesDepth config (.object fields)) :
    bodyReport whitelist config (.object fields) =
      clauseKeys.flatMap fun key =>
        (fields.lookup key).elim [] (clauseAlone whitelist config key) := by
  rw [bodyReport_object passes]
  refine List.flatMap_congr fun key walked => ?_
  cases found : fields.lookup key with
  | none => rw [Json.present?, found, Option.filter_none, Option.elim_none, Option.elim_none]
  | some value =>
      rw [Json.present?, found, Option.filter_some, Option.elim_some,
        clauseAlone_eq walked (passes.clause found)]
      cases value.isNull <;> rfl

variable (whitelist config)

/-- What is reported of each entry in a list of its own, moved to its position in the list
at the place. -/
def eachAlone (key : String) (place : Place) (items : List Json) : List Violation :=
  (items.mapIdx fun position item =>
    (clauseAlone whitelist config key (.array [item])).map
      (Violation.moved [.key key, .index 0] (place ++ [.index position]))).flatten

variable {whitelist config}

theorem clauseAlone_array {key : String} {report : Json → List Violation}
    (listed : (key, report) ∈ entryReports whitelist) {items : List Json}
    (passes : PassesDepth config (.object [(key, .array items)])) :
    clauseAlone whitelist config key (.array items) = reportEach [.key key] report items := by
  have walked : key ∈ clauseKeys := by
    have keys : (entryReports whitelist).map Prod.fst ⊆ clauseKeys := by
      show ["scopes", "filters", "sort"] ⊆ clauseKeys
      decide
    exact keys (List.mem_map_of_mem listed)
  rw [clauseAlone_eq walked passes, clauseReport_array whitelist config listed]
  rfl

theorem eachAlone_eq {key : String} {report : Json → List Violation}
    (listed : (key, report) ∈ entryReports whitelist) (place : Place) {items : List Json}
    (passes : PassesDepth config (.object [(key, .array items)])) :
    eachAlone whitelist config key place items = reportEach place report items := by
  refine congrArg List.flatten (List.mapIdx_eq_mapIdx_iff.mpr fun position inside => ?_)
  have alone := clauseAlone_array listed
    (passes.shallower (itemsDepth_singleton_le (List.getElem_mem inside)))
  have moved : Violation.moved [.key key, .index 0] (place ++ [.index position]) ∘
      Violation.under [.key key, .index 0] = Violation.under (place ++ [.index position]) :=
    funext (Violation.moved_under _ _)
  rw [alone, reportEach, List.mapIdx_cons, List.mapIdx_nil, List.flatten_singleton, List.map_map]
  exact congrArg (List.map · _) moved

section Group

variable {front : List (String × Json)} (free : ∀ entry ∈ front, entry.1 ≠ "nested")
  (back : List (String × Json))

theorem itemsDepth_group (front : List (String × Json)) (items : List Json)
    (back : List (String × Json)) :
    itemsDepth [.object (front ++ ("nested", .array items) :: back)] =
      max (fieldsDepth front) (max (itemsDepth items + 1) (fieldsDepth back)) + 1 := by
  simp [itemsDepth, containerDepth, fieldsDepth_append, fieldsDepth, Json.isContainer]

include free in
/-- A group alone is told its own violations and then those of each nested entry alone. -/
theorem clauseAlone_group {items : List Json}
    (passes : PassesDepth config (.object
      [("filters", .array [.object (front ++ ("nested", .array items) :: back)])])) :
    clauseAlone whitelist config "filters"
        (.array [.object (front ++ ("nested", .array items) :: back)]) =
      clauseAlone whitelist config "filters"
          (.array [.object (front ++ ("nested", .array []) :: back)]) ++
        eachAlone whitelist config "filters" [.key "filters", .index 0, .key "nested"] items := by
  have listed : ("filters", nodeReport whitelist) ∈ entryReports whitelist := .tail _ (.head _)
  have emptied : PassesDepth config (.object
      [("filters", .array [.object (front ++ ("nested", .array []) :: back)])]) := by
    refine passes.shallower ?_
    rw [itemsDepth_group, itemsDepth_group, itemsDepth]
    omega
  have nested : PassesDepth config (.object [("filters", .array items)]) := by
    refine passes.shallower ?_
    rw [itemsDepth_group]
    omega
  have single (node : Json) : reportEach [.key "filters"] (nodeReport whitelist) [node] =
      (nodeReport whitelist node).map (Violation.under [.key "filters", .index 0]) := by
    rw [reportEach, List.mapIdx_cons, List.mapIdx_nil, List.flatten_singleton]
    rfl
  rw [clauseAlone_array listed passes, clauseAlone_array listed emptied,
    eachAlone_eq listed _ nested, single, single, nodeReport_nested whitelist free back items,
    List.map_append, map_under_reportEach]
  rfl

end Group

/-- Bodies that pass the depth guard and differ in one entry are told the same of everything
outside of it, so once the entry is right, only what was told of it is gone. The report of
a body is that of its clauses alone, in the order in which they are walked; that of a list is
that of its entries alone, each moved to its position; and that of a group is its own and
then that of its nested entries alone. -/
theorem violations_local (whitelist : Whitelist) (config : Config) :
    (∀ place first second, EntryPlace place → DifferAt place first second →
      PassesDepth config first → PassesDepth config second →
      outside place (bodyReport whitelist config first) =
          outside place (bodyReport whitelist config second) ∧
        ((∀ violation ∈ bodyReport whitelist config second, ¬ place <+: violation.place) →
          bodyReport whitelist config second =
            outside place (bodyReport whitelist config first))) ∧
    (∀ fields, PassesDepth config (.object fields) →
      bodyReport whitelist config (.object fields) =
        clauseKeys.flatMap fun key =>
          (fields.lookup key).elim [] (clauseAlone whitelist config key)) ∧
    (∀ key ∈ ["scopes", "filters", "sort"], ∀ items,
      PassesDepth config (.object [(key, .array items)]) →
      clauseAlone whitelist config key (.array items) =
        eachAlone whitelist config key [.key key] items) ∧
    ∀ front items back, (∀ entry ∈ front, entry.1 ≠ "nested") →
      PassesDepth config (.object
        [("filters", .array [.object (front ++ ("nested", .array items) :: back)])]) →
      clauseAlone whitelist config "filters"
          (.array [.object (front ++ ("nested", .array items) :: back)]) =
        clauseAlone whitelist config "filters"
            (.array [.object (front ++ ("nested", .array []) :: back)]) ++
          eachAlone whitelist config "filters" [.key "filters", .index 0, .key "nested"]
            items := by
  refine ⟨fun place first second entry differ passesFirst passesSecond => ?_,
    fun fields => bodyReport_eq_flatMap, fun key list items passes => ?_,
    fun front items back free => clauseAlone_group free back⟩
  · have same : outside place (bodyReport whitelist config first) =
        outside place (bodyReport whitelist config second) :=
      outside_bodyReport entry differ passesFirst passesSecond
    refine ⟨same, fun right => ?_⟩
    rw [same, outside_eq_self right]
  · have keys : (entryReports whitelist).map Prod.fst = ["scopes", "filters", "sort"] := rfl
    rw [← keys] at list
    obtain ⟨⟨_, report⟩, listed, rfl⟩ := List.mem_map.mp list
    rw [clauseAlone_array listed passes, eachAlone_eq listed _ passes]

/-- A test of the title with an unknown combinator. -/
def xorTest : Json :=
  .object [("field", .text "title"), ("type", .text "xor"), ("value", .text "Logic")]

/-- The fields with the name of the author, once the title is asked for instead. -/
def titledFields : List (String × Json) :=
  [("filters", .array
      [.object
          [("nested", .array
              [.object [("field", .text "title"), ("value", .text "Lean")], xorTest])]]),
    ("sort", .array [.object [("field", .text "title")]])]

/-- The place of the test of the name. -/
def namePlace : Place := [.key "filters", .index 0, .key "nested", .index 0]

theorem differAt_titledFields :
    DifferAt namePlace (.object authorFields) (.object titledFields) := by
  have test := DifferAt.here (.object [("field", .text "author.name"), ("value", .text "Lean")])
    (.object [("field", .text "title"), ("value", .text "Lean")])
  have group := @DifferAt.key "nested" [] (List.forall_mem_nil _) [] _ _ _
    (.index [] [xorTest] test)
  exact @DifferAt.key "filters" [] (List.forall_mem_nil _) _ _ _ _ (.index [] [] group)

/-- Of three violations in a group and in the orders the first one is gone with the name,
and the others stay. They are those of the two clauses, and what is told of a test in a group
is what it is told in a list of its own. -/
theorem violations_local_titledFields :
    (bodyReport titleWhitelist {} (.object authorFields)).map Violation.field =
        ["filters.0.nested.0.field", "filters.0.nested.1.type", "sort.0.field"] ∧
      bodyReport titleWhitelist {} (.object titledFields) =
        outside namePlace (bodyReport titleWhitelist {} (.object authorFields)) ∧
      (bodyReport titleWhitelist {} (.object titledFields)).map Violation.field =
        ["filters.0.nested.1.type", "sort.0.field"] ∧
      bodyReport titleWhitelist {} (.object titledFields) =
        (clauseKeys.flatMap fun key =>
          (titledFields.lookup key).elim [] (clauseAlone titleWhitelist {} key)) ∧
      clauseAlone titleWhitelist {} "filters" (.array [xorTest, xorTest]) =
        eachAlone titleWhitelist {} "filters" [.key "filters"] [xorTest, xorTest] ∧
      clauseAlone titleWhitelist {} "filters" (.array [.object [("nested", .array [xorTest])]]) =
        clauseAlone titleWhitelist {} "filters" (.array [.object [("nested", .array [])]]) ++
          eachAlone titleWhitelist {} "filters" [.key "filters", .index 0, .key "nested"]
            [xorTest] := by
  obtain ⟨changed, walked, listed, grouped⟩ := violations_local titleWhitelist {}
  have passes {fields : List (String × Json)} (guarded : guardDepth {} fields = .ok ()) :
      PassesDepth {} (.object fields) :=
    (guardDepth_eq_ok_iff {} fields).mp guarded
  have place : EntryPlace namePlace := .filter 0 (.nested 0 .itself)
  obtain ⟨_, fixed⟩ := changed _ _ _ place differAt_titledFields (passes rfl) (passes rfl)
  refine ⟨by decide +kernel, fixed (by decide +kernel), by decide +kernel, walked _ (passes rfl),
    listed "filters" (by decide) _ (passes rfl), ?_⟩
  exact grouped [] [xorTest] [] (List.forall_mem_nil _) (passes rfl)

end Request

end QueryGate
