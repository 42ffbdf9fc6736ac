import Mathlib
import QueryGate.Proofs.Request.Depth
import QueryGate.Proofs.Request.Placement

/-!
# The places that violations name

The place of a violation is reported as a path: names with dots between them. Read from the
body inwards, a name is a key of an object or the position of an item in an array. Every
path that is reported leads to a value of the body or to a key that an object in the body
lacks, no two violations have one path, and a refusal has at least one (`places_of_parse`).

What is reported of a value is described by the names that lead from the value to the
violations (`Precise`). Reports of the parts of a value are put together when the parts
have different names (`PreciseAt.append`, `Precise.items`), so only this is left for each
check: it finds at most one violation, and that at its own key (`FailsAt`). The exception
is the value of a test, which is looked at twice; the second look is taken only when the
first one found nothing.

Mathlib is imported whole for a lemma on the texts of numbers (`Nat.toNat?_repr`), which no
part of it brings in.
-/

set_option autoImplicit false

namespace QueryGate

/-! ## Paths -/

/-- The member of a container with the name: the key of an object, or the position of an
item in an array. -/
def Json.member? (name : String) : Json → Option Json
  | .object fields => fields.lookup name
  | .array items => name.toNat?.bind fun position => items[position]?
  | _ => none

/-- What names lead to, each of them a member of what those before it lead to. -/
def Json.follow? : List String → Json → Option Json
  | [], json => some json
  | name :: names, json => (json.member? name).bind (Json.follow? names)

/-- The names between the dots of a path. -/
def pathNames (path : String) : List String :=
  (path.toList.splitOn '.').map String.ofList

/-- The names lead to a value, or to a key that an object on the way lacks. -/
def Leads (json : Json) (names : List String) : Prop :=
  (∃ value, json.follow? names = some value) ∨
    ∃ parents key fields, names = parents ++ [key] ∧
      json.follow? parents = some (.object fields) ∧ fields.lookup key = none

/-- A name between dots holds none. -/
def Dotless (name : String) : Prop :=
  '.' ∉ name.toList

instance (name : String) : Decidable (Dotless name) :=
  inferInstanceAs (Decidable ('.' ∉ name.toList))

theorem dotless_toString (position : Nat) : Dotless (toString position) := by
  intro dotted
  rw [Nat.toString_eq_ofList_toDigits, String.toList_ofList] at dotted
  have digit := Nat.isDigit_of_mem_toDigits (by decide) (by decide) dotted
  exact absurd digit (by decide)

/-- Each item of an array is named by its position. -/
theorem Json.member?_toString (items : List Json) (position : Nat) :
    (Json.array items).member? (toString position) = items[position]? := by
  rw [member?, Nat.toString_eq_repr, Nat.toNat?_repr]
  rfl

namespace Leads

theorem here (json : Json) : Leads json [] :=
  .inl ⟨json, rfl⟩

theorem into {json member : Json} {name : String} {names : List String}
    (held : json.member? name = some member) (leads : Leads member names) :
    Leads json (name :: names) := by
  rcases leads with ⟨value, found⟩ | ⟨parents, key, fields, rfl, found, lacked⟩
  · refine .inl ⟨value, ?_⟩
    rw [Json.follow?, held]
    exact found
  · refine .inr ⟨name :: parents, key, fields, rfl, ?_, lacked⟩
    rw [Json.follow?, held]
    exact found

/-- A key of an object has a value or is lacked. -/
theorem key (fields : List (String × Json)) (name : String) : Leads (.object fields) [name] := by
  cases found : fields.lookup name with
  | none => exact .inr ⟨[], name, fields, rfl, rfl, found⟩
  | some value =>
      have held : (Json.object fields).member? name = some value := found
      exact into held (here value)

end Leads

/-- The names of the steps to a violation. -/
def Violation.names (violation : Violation) : List String :=
  violation.place.map Step.text

/-- The path of a violation is made of its names. -/
theorem Violation.pathNames_field {violation : Violation} (away : violation.names ≠ [])
    (dotless : ∀ name ∈ violation.names, Dotless name) :
    pathNames violation.field = violation.names := by
  have cut : ∀ letters ∈ violation.names.map String.toList, '.' ∉ letters :=
    List.forall_mem_map.mpr dotless
  have some : violation.names.map String.toList ≠ [] := mt List.map_eq_nil_iff.mp away
  have rebuilt : String.ofList ∘ String.toList = id := funext fun _ => String.ofList_toList
  rw [pathNames, field, Place.text, String.toList_intercalate]
  exact (congrArg (List.map String.ofList) (List.splitOn_intercalate '.' cut some)).trans
    (by rw [List.map_map, rebuilt, List.map_id])

theorem Violation.names_under (step : Step) (violation : Violation) :
    (violation.under [step]).names = step.text :: violation.names := rfl

/-! ## Precise reports -/

/-- The violations are those of the value: each lies where its names lead to, and no two
have the same names. -/
structure Precise (json : Json) (violations : List Violation) : Prop where
  apart : (violations.map Violation.names).Nodup
  leads : ∀ violation ∈ violations, Leads json violation.names
  dotless : ∀ violation ∈ violations, ∀ name ∈ violation.names, Dotless name

/-- A precise report of members with the names. -/
structure PreciseAt (json : Json) (members : List String) (violations : List Violation) : Prop
    extends Precise json violations where
  begins : ∀ violation ∈ violations, ∃ name ∈ members, ∃ names, violation.names = name :: names

theorem Precise.nil (json : Json) : Precise json [] :=
  ⟨List.nodup_nil, List.forall_mem_nil _, List.forall_mem_nil _⟩

/-- One violation of the value itself. -/
theorem Precise.here (json : Json) (reason : Reason) : Precise json [⟨[], reason⟩] where
  apart := List.nodup_singleton _
  leads := List.forall_mem_singleton.mpr (.here json)
  dotless := List.forall_mem_singleton.mpr fun _ impossible => absurd impossible List.not_mem_nil

namespace PreciseAt

variable {json : Json} {members others : List String} {violations more : List Violation}

theorem nil (json : Json) (members : List String) : PreciseAt json members [] :=
  ⟨.nil json, List.forall_mem_nil _⟩

/-- Reports of different members are precise together. -/
theorem append (first : PreciseAt json members violations) (second : PreciseAt json others more)
    (different : ∀ name ∈ members, name ∉ others) :
    PreciseAt json (members ++ others) (violations ++ more) where
  apart := by
    rw [List.map_append, List.nodup_append']
    refine ⟨first.apart, second.apart, ?_⟩
    rw [List.disjoint_left]
    intro names inFirst inSecond
    obtain ⟨violation, among, rfl⟩ := List.mem_map.mp inFirst
    obtain ⟨other, amongMore, same⟩ := List.mem_map.mp inSecond
    obtain ⟨name, held, rest, begun⟩ := first.begins violation among
    obtain ⟨otherName, otherHeld, otherRest, otherBegun⟩ := second.begins other amongMore
    rw [begun, otherBegun] at same
    obtain ⟨rfl, _⟩ := List.cons.inj same
    exact different _ held otherHeld
  leads := List.forall_mem_append.mpr ⟨first.leads, second.leads⟩
  dotless := List.forall_mem_append.mpr ⟨first.dotless, second.dotless⟩
  begins := by
    refine List.forall_mem_append.mpr ⟨fun violation among => ?_, fun violation among => ?_⟩
    · obtain ⟨name, held, begun⟩ := first.begins violation among
      exact ⟨name, List.mem_append_left _ held, begun⟩
    · obtain ⟨name, held, begun⟩ := second.begins violation among
      exact ⟨name, List.mem_append_right _ held, begun⟩

/-- So are reports of any number of members that are all different. -/
theorem flatMap {β : Type} {name : β → String} {report : β → List Violation} {parts : List β}
    (different : (parts.map name).Nodup)
    (each : ∀ part ∈ parts, PreciseAt json [name part] (report part)) :
    PreciseAt json (parts.map name) (parts.flatMap report) := by
  induction parts with
  | nil => exact nil json []
  | cons part parts ih =>
      obtain ⟨unlike, different⟩ := List.nodup_cons.mp different
      obtain ⟨here, later⟩ := List.forall_mem_cons.mp each
      refine here.append (ih different later) ?_
      rw [List.forall_mem_singleton]
      exact unlike

/-- What is reported of a member is reported of the value that has it. -/
theorem under {member : Json} (step : Step) (precise : Precise member violations)
    (held : json.member? step.text = some member) (dotless : Dotless step.text) :
    PreciseAt json [step.text] (violations.map (Violation.under [step])) where
  apart := by
    have names : Violation.names ∘ Violation.under [step] =
        List.cons step.text ∘ Violation.names :=
      funext (Violation.names_under step)
    rw [List.map_map, names, ← List.map_map]
    exact precise.apart.map List.cons_injective
  leads := List.forall_mem_map.mpr fun violation among =>
    .into held (precise.leads violation among)
  dotless := List.forall_mem_map.mpr fun violation among =>
    List.forall_mem_cons.mpr ⟨dotless, precise.dotless violation among⟩
  begins := List.forall_mem_map.mpr fun violation _ =>
    ⟨step.text, List.mem_singleton_self _, violation.names, rfl⟩

end PreciseAt

/-- Items reported in their order are precise together. -/
theorem Precise.items {items : List Json} {report : Json → List Violation}
    (each : ∀ item ∈ items, Precise item (report item)) :
    Precise (.array items) (reportEach [] report items) := by
  have item (position : Nat) (inside : position < items.length) :
      PreciseAt (.array items) [toString position]
        ((report items[position]).map (Violation.under [.index position])) := by
    refine .under (.index position) (each _ (List.getElem_mem inside)) ?_
      (dotless_toString position)
    exact (Json.member?_toString items position).trans (List.getElem?_eq_getElem inside)
  have origin {violation : Violation} (among : violation ∈ reportEach [] report items) :
      ∃ (position : Nat) (inside : position < items.length),
        violation ∈ (report items[position]).map (Violation.under [.index position]) := by
    obtain ⟨_, inList, held⟩ := List.mem_flatten.mp among
    obtain ⟨position, inside, rfl⟩ := List.mem_mapIdx.mp inList
    exact ⟨position, inside, held⟩
  refine ⟨?_, fun violation among => ?_, fun violation among => ?_⟩
  · rw [reportEach, List.map_flatten, map_mapIdx, List.nodup_flatten]
    constructor
    · intro names inList
      obtain ⟨position, inside, rfl⟩ := List.mem_mapIdx.mp inList
      exact (item position inside).apart
    · rw [List.pairwise_iff_getElem]
      intro position later inside laterInside before
      rw [List.length_mapIdx] at inside laterInside
      rw [List.getElem_mapIdx, List.getElem_mapIdx, List.disjoint_left]
      intro names here there
      obtain ⟨violation, among, rfl⟩ := List.mem_map.mp here
      obtain ⟨other, amongLater, same⟩ := List.mem_map.mp there
      obtain ⟨name, named, _, begun⟩ := (item position inside).begins violation among
      obtain ⟨laterName, laterNamed, _, laterBegun⟩ :=
        (item later laterInside).begins other amongLater
      rw [begun, laterBegun, List.mem_singleton.mp named, List.mem_singleton.mp laterNamed] at same
      have equal := Nat.repr_injective (List.cons.inj same).1
      omega
  · obtain ⟨position, inside, held⟩ := origin among
    exact (item position inside).leads violation held
  · obtain ⟨position, inside, held⟩ := origin among
    exact (item position inside).dotless violation held

/-! ## Checks of single keys -/

namespace Validated

variable {α β : Type} {place : Place}

/-- The check finds at most one violation, and that at the place. -/
def FailsAt (place : Place) (checked : Validated α) : Prop :=
  checked.violations = [] ∨ ∃ reason, checked.violations = [⟨place, reason⟩]

namespace FailsAt

theorem valid (value : α) : (Validated.valid value).FailsAt place :=
  .inl rfl

theorem reject (reason : Reason) : (Validated.reject place reason : Validated α).FailsAt place :=
  .inr ⟨reason, rfl⟩

theorem ofOption (found : Option α) (reason : Reason) :
    (Validated.ofOption found place reason).FailsAt place := by
  cases found with
  | none => exact reject reason
  | some value => exact valid value

theorem map {checked : Validated α} (single : checked.FailsAt place) (function : α → β) :
    (checked.map function).FailsAt place := by
  unfold FailsAt
  rw [violations_map]
  exact single

theorem andThen {checked : Validated α} (single : checked.FailsAt place)
    {next : α → Validated β} (later : ∀ value, (next value).FailsAt place) :
    (checked.andThen next).FailsAt place := by
  cases checked with
  | valid value => exact later value
  | invalid first others => exact single

/-- A value that is let through or refused. -/
theorem guarded (allowed : Bool) (value : α) (reason : Reason) :
    (if allowed then Validated.valid value else Validated.reject place reason).FailsAt place := by
  cases allowed with
  | true => exact valid value
  | false => exact reject reason

/-- A check that fails only at a key reports the key. -/
theorem preciseAt {key : String} {checked : Validated α} (single : checked.FailsAt [.key key])
    (fields : List (String × Json)) (dotless : Dotless key) :
    PreciseAt (.object fields) [key] checked.violations := by
  rcases single with none | ⟨reason, one⟩
  · rw [none]
    exact .nil _ _
  · rw [one]
    refine ⟨⟨List.nodup_singleton _, ?_, ?_⟩, ?_⟩
    · exact List.forall_mem_singleton.mpr (.key fields key)
    · exact List.forall_mem_singleton.mpr (List.forall_mem_singleton.mpr dotless)
    · exact List.forall_mem_singleton.mpr ⟨key, List.mem_singleton_self key, [], rfl⟩

end FailsAt

end Validated

namespace Request

open Validated (FailsAt)

variable (whitelist : Whitelist) (fields : List (String × Json))

theorem failsAt_requiredText (key : String) : (requiredText [] key fields).FailsAt [.key key] := by
  unfold requiredText
  split
  · exact .reject _
  · exact .valid _
  · exact .reject _

theorem failsAt_scopeName : (scopeName whitelist [] fields).FailsAt [.key "name"] :=
  .andThen (failsAt_requiredText fields "name") fun _ => .guarded _ _ _

theorem failsAt_scopeParameters : (scopeParameters [] fields).FailsAt [.key "parameters"] := by
  unfold scopeParameters
  split
  · exact .valid _
  · exact .valid _
  · exact .reject _

theorem failsAt_fieldName (whenMissing : Reason) :
    (fieldName [] whenMissing fields).FailsAt [.key "field"] := by
  unfold fieldName
  split
  · exact .reject _
  · split
    · exact .reject _
    · exact .guarded _ _ _
  · exact .reject _

theorem failsAt_sortField : (sortField whitelist [] fields).FailsAt [.key "field"] :=
  .andThen (failsAt_fieldName fields _) fun _ => .guarded _ _ _

theorem failsAt_filterField : (filterField whitelist [] fields).FailsAt [.key "field"] :=
  .andThen (failsAt_fieldName fields _) fun _ => .guarded _ _ _

theorem failsAt_sortDirection : (sortDirection [] fields).FailsAt [.key "direction"] := by
  unfold sortDirection
  split
  · exact .valid _
  · split
    · exact .valid _
    · exact .reject _
  · exact .reject _

theorem failsAt_combinator : (combinator [] fields).FailsAt [.key "type"] := by
  unfold combinator
  split
  · exact .valid _
  · split
    · exact .valid _
    · exact .reject _
  · exact .reject _

theorem failsAt_operator? : (operator? [] fields).FailsAt [.key "operator"] := by
  unfold operator?
  split
  · exact .valid _
  · split
    · exact .valid _
    · exact .reject _
  · exact .reject _

theorem failsAt_fieldBeside : (fieldBeside whitelist [] fields).FailsAt [.key "field"] := by
  unfold fieldBeside
  split
  · exact .valid _
  · exact (failsAt_filterField whitelist fields).map _

theorem failsAt_fit (operator : Operator) (value : FilterValue) :
    (fit [] operator value).FailsAt [.key "value"] := by
  cases value with
  | null => exact .guarded _ _ _
  | list values => exact .guarded _ _ _
  | scalar scalar => exact .valid _

/-! ## Lists under a key -/

variable {fields}

theorem member?_of_present? {key : String} {json : Json}
    (found : Json.present? key fields = some json) :
    (Json.object fields).member? key = some json :=
  ((Json.present?_eq_some_iff _ _ _).mp found).1

/-- The entries of a list under a key are reported in their order. -/
theorem preciseAt_entries {α : Type} {key : String} {entry : Json → Validated α}
    {items : List Json} (found : Json.present? key fields = some (.array items))
    (dotless : Dotless key) (each : ∀ item ∈ items, Precise item (entry item).violations) :
    PreciseAt (.object fields) [key]
      (Validated.all (items.mapIdx fun position item =>
        (entry item).under [.key key, .index position])).violations := by
  have placed := PreciseAt.under (.key key) (Precise.items each)
    (member?_of_present? found) dotless
  rw [map_under_reportEach] at placed
  rw [violations_all_entries]
  exact placed

/-- So is a list that is checked entry by entry; anything but a list is refused at the
key. -/
theorem preciseAt_list {α : Type} {key : String} {read : Json → Validated (List α)}
    {entry : Json → Validated α} (checks : ChecksEntries key read entry)
    (otherwise : ∀ json, (∀ items, json ≠ .array items) → (read json).FailsAt [.key key])
    (dotless : Dotless key) {json : Json} (found : Json.present? key fields = some json)
    (each : ∀ items, json = .array items → ∀ item ∈ items, Precise item (entry item).violations) :
    PreciseAt (.object fields) [key] (read json).violations := by
  by_cases listed : ∃ items, json = .array items
  · obtain ⟨items, rfl⟩ := listed
    rw [checks]
    exact preciseAt_entries found dotless (each items rfl)
  · exact (otherwise json (not_exists.mp listed)).preciseAt fields dotless

/-! ## Filters -/

variable (fields)

theorem precise_scalar (otherwise : Reason) (json : Json) :
    Precise json (scalar [] otherwise json).violations := by
  have single : (scalar [] otherwise json).FailsAt [] := .ofOption _ _
  rcases single with none | ⟨reason, one⟩
  · rw [none]
    exact .nil json
  · rw [one]
    exact .here json reason

theorem preciseAt_filterValue :
    PreciseAt (.object fields) ["value"] (filterValue [] fields).violations := by
  have placed (step : Step) (rest : Place) (otherwise : Reason) (json : Json) :
      scalar (step :: rest) otherwise json =
        (scalar [] otherwise json).under (step :: rest) := by
    rw [← scalar_placed, List.append_nil]
  rw [filterValue_eq_present]
  split
  · exact .nil _ _
  · next items found =>
      simp only [Validated.violations_map, List.nil_append, List.cons_append, placed]
      exact preciseAt_entries found (by decide) fun item _ => precise_scalar .notScalar item
  · next json _ found =>
      rw [Validated.violations_map, List.nil_append, placed, Validated.violations_under]
      exact .under (.key "value") (precise_scalar .notScalarOrList json)
        (member?_of_present? found) (by decide)

/-- The fit of operator and value is looked at only where both are in order. -/
theorem preciseAt_comparison :
    PreciseAt (.object fields) ["value", "operator"] (comparison [] fields).violations := by
  have sides : PreciseAt (.object fields) (["value"] ++ ["operator"])
      ((filterValue [] fields).both (operator? [] fields)).violations := by
    rw [Validated.violations_both]
    exact (preciseAt_filterValue fields).append
      ((failsAt_operator? fields).preciseAt fields (by decide)) (by decide)
  unfold comparison
  cases checked : (filterValue [] fields).both (operator? [] fields) with
  | valid parts =>
      have value := (failsAt_fit (parts.2.getD (defaultOperator parts.1)) parts.1).preciseAt fields
        (by decide)
      have fits := value.append (.nil _ ["operator"]) (by decide)
      rw [List.append_nil] at fits
      exact fits
  | invalid first others =>
      rw [checked] at sides
      exact sides

theorem precise_leaf : Precise (.object fields) (leaf whitelist [] fields).violations := by
  have type := (failsAt_combinator fields).preciseAt fields (by decide)
  have field := (failsAt_filterField whitelist fields).preciseAt fields (by decide)
  have parts := type.append (field.append (preciseAt_comparison fields) (by decide)) (by decide)
  rw [leaf, Validated.violations_map, Validated.violations_both, Validated.violations_both]
  exact parts.toPrecise

theorem precise_group {nested : Validated (List Filter)}
    (precise : PreciseAt (.object fields) ["nested"] nested.violations) :
    Precise (.object fields) (group whitelist [] fields nested).violations := by
  have type := (failsAt_combinator fields).preciseAt fields (by decide)
  have field := (failsAt_fieldBeside whitelist fields).preciseAt fields (by decide)
  have parts := type.append (field.append precise (by decide)) (by decide)
  rw [group, Validated.violations_map, Validated.violations_both, Validated.violations_both]
  exact parts.toPrecise

theorem failsAt_filterList (place : Place) (json : Json) (bare : ∀ items, json ≠ .array items) :
    (filterList whitelist place json).FailsAt place := by
  rw [filterList]
  · exact .reject _
  · exact bare

/-- A node is precise, and so are the items of a list of nodes. -/
theorem precise_filters (json : Json) :
    Precise json (filterNode whitelist [] json).violations ∧
      ∀ items, json = .array items →
        ∀ item ∈ items, Precise item (filterNode whitelist [] item).violations := by
  induction json using Json.members_induction with
  | single json bare =>
      constructor
      · rw [filterNode_of_single]
        · exact .here json _
        · rintro fields rfl
          cases bare
      · rintro items rfl
        cases bare
  | array items ih =>
      constructor
      · rw [filterNode_of_single]
        · exact .here _ _
        · exact fun _ impossible => (nomatch impossible)
      · intro others same item among
        cases same
        exact (ih item among).1
  | object fields ih =>
      refine ⟨?_, fun _ impossible => (nomatch impossible)⟩
      rw [filterNode_object]
      split
      · exact precise_leaf whitelist fields
      · next json found =>
          refine precise_group whitelist fields ?_
          exact preciseAt_list (checksEntries_filters whitelist "nested")
            (failsAt_filterList whitelist [.key "nested"]) (by decide) found
            (ih (_, json) (mem_of_present? found)).2

/-! ## The other clauses -/

theorem precise_objectEntry {α : Type} (entryName : String)
    {read : Place → List (String × Json) → Validated α}
    (each : ∀ fields, Precise (.object fields) (read [] fields).violations) (json : Json) :
    Precise json (objectEntry entryName read json).violations := by
  cases json with
  | object fields => exact each fields
  | _ => exact .here _ _

theorem precise_scopeEntry (json : Json) :
    Precise json (scopeEntry whitelist json).violations := by
  refine precise_objectEntry "scope" (fun fields => ?_) json
  have name := (failsAt_scopeName whitelist fields).preciseAt fields (by decide)
  have parameters := (failsAt_scopeParameters fields).preciseAt fields (by decide)
  rw [Validated.violations_map, Validated.violations_both]
  exact (name.append parameters (by decide)).toPrecise

theorem precise_sortEntry (json : Json) : Precise json (sortEntry whitelist json).violations := by
  refine precise_objectEntry "sort" (fun fields => ?_) json
  have field := (failsAt_sortField whitelist fields).preciseAt fields (by decide)
  have direction := (failsAt_sortDirection fields).preciseAt fields (by decide)
  rw [Validated.violations_map, Validated.violations_both]
  exact (field.append direction (by decide)).toPrecise

theorem failsAt_entries {α : Type} (key entryName : String)
    (read : Place → List (String × Json) → Validated α) (json : Json)
    (bare : ∀ items, json ≠ .array items) :
    (entries key entryName read json).FailsAt [.key key] := by
  cases json with
  | array items => exact absurd rfl (bare items)
  | _ => exact .reject _

/-- The parts of a search, of which the violations lie in the search. -/
theorem preciseAt_search (config : Config) {json : Json}
    (found : Json.present? "search" fields = some json) :
    PreciseAt (.object fields) ["search"] (search config json).violations := by
  cases json with
  | object parts =>
      have regard : ∃ checked : Validated Bool, checked.FailsAt [.key "case_sensitive"] ∧
          searchCase config parts = checked.under [.key "search"] := by
        unfold searchCase
        split
        · exact ⟨.valid _, .valid _, rfl⟩
        · exact ⟨_, .ofOption _ _, (Validated.under_ofOption [.key "search"] _ _ _).symm⟩
      have term : ∃ checked : Validated (Option String), checked.FailsAt [.key "value"] ∧
          searchValue? parts = checked.under [.key "search"] := by
        unfold searchValue?
        split
        · exact ⟨.valid _, .valid _, rfl⟩
        · exact ⟨.valid _, .valid _, rfl⟩
        · exact ⟨.reject [.key "value"] _, .reject _, rfl⟩
      obtain ⟨regarded, regardFails, regardPlaced⟩ := regard
      obtain ⟨valued, valueFails, valuePlaced⟩ := term
      have inside := (regardFails.preciseAt parts (by decide)).append
        (valueFails.preciseAt parts (by decide)) (by decide)
      rw [search, Validated.violations_map, Validated.violations_both, regardPlaced, valuePlaced,
        Validated.violations_under, Validated.violations_under, ← List.map_append]
      exact .under (.key "search") inside.toPrecise (member?_of_present? found) (by decide)
  | _ =>
      refine FailsAt.preciseAt ?_ fields (by decide)
      exact .reject _

/-! ## Bodies -/

variable {whitelist fields}

/-- The report of a clause that is present. -/
theorem preciseAt_clause {config : Config} {clause : String × (Json → List Violation)}
    (among : clause ∈ clauseReports whitelist config) {value : Json}
    (found : Json.present? clause.1 fields = some value) :
    PreciseAt (.object fields) [clause.1] (clause.2 value) := by
  have flag (key : String) (dotless : Dotless key) :
      PreciseAt (.object fields) [key] (flagReport key value) :=
    (FailsAt.ofOption (flag? value) _).preciseAt fields dotless
  simp only [clauseReports, List.mem_cons, List.not_mem_nil, or_false] at among
  rcases among with rfl | rfl | rfl | rfl | rfl | rfl
  · exact preciseAt_list (checksEntries_scopes whitelist) (failsAt_entries _ _ _) (by decide)
      found fun _ _ item _ => precise_scopeEntry whitelist item
  · exact preciseAt_list (checksEntries_filters whitelist "filters")
      (failsAt_filterList whitelist [.key "filters"]) (by decide) found
      fun _ _ item _ => (precise_filters whitelist item).1
  · exact preciseAt_search fields config found
  · exact preciseAt_list (checksEntries_sorting whitelist) (failsAt_entries _ _ _) (by decide)
      found fun _ _ item _ => precise_sortEntry whitelist item
  · exact flag "with_trashed" (by decide)
  · exact flag "only_trashed" (by decide)

variable (whitelist fields)

theorem preciseAt_clauses (config : Config) :
    PreciseAt (.object fields) ((clauseReports whitelist config).map Prod.fst)
      (clauses whitelist config fields).violations := by
  rw [violations_clauses]
  refine .flatMap ?_ fun clause among => ?_
  · show ["scopes", "filters", "search", "sort", "with_trashed", "only_trashed"].Nodup
    decide
  · cases found : Json.present? clause.1 fields with
    | none => exact .nil _ _
    | some value => exact preciseAt_clause among found

/-- What is reported of an object is reported of members of it, and there is some. -/
theorem preciseAt_of_parse (config : Config) {failure : Failure}
    (refused : parse whitelist config (.object fields) = .error failure) :
    failure.violations ≠ [] ∧
      ∃ members, PreciseAt (.object fields) members failure.violations := by
  by_cases deep : config.maxNestedDepth < bodyDepth (.object fields)
  · rw [parse_of_deep deep] at refused
    cases refused
    refine ⟨List.cons_ne_nil _ _, ["filters"], ?_⟩
    have single : (Validated.reject [.key "filters"] (.tooDeep config.maxNestedDepth) :
        Validated Query).FailsAt [.key "filters"] := .reject _
    exact single.preciseAt fields (by decide)
  · rw [parse_of_flat deep] at refused
    have precise := preciseAt_clauses whitelist fields config
    cases checked : clauses whitelist config fields with
    | valid query =>
        rw [checked] at refused
        cases refused
    | invalid first others =>
        rw [checked] at refused precise
        cases refused
        exact ⟨List.cons_ne_nil _ _, _, precise⟩

/-- A body that is refused for its content is told of at least one violation. No two
violations have the same path, and every path, read as keys and positions from the body
inwards, leads to a value of the body or to a key that an object in the body lacks. -/
theorem places_of_parse (config : Config) (body : Json) (failure : Failure)
    (refused : parse whitelist config body = .error failure)
    (unprocessable : failure.status.code = 422) :
    failure.violations ≠ [] ∧
      (failure.violations.map Violation.field).Nodup ∧
      ∀ violation ∈ failure.violations, Leads body (pathNames violation.field) := by
  cases body with
  | object fields =>
      obtain ⟨some, members, precise⟩ := preciseAt_of_parse whitelist fields config refused
      have paths : ∀ violation ∈ failure.violations,
          pathNames violation.field = violation.names := by
        intro violation among
        obtain ⟨name, _, names, begun⟩ := precise.begins violation among
        refine Violation.pathNames_field ?_ (precise.dotless violation among)
        rw [begun]
        exact List.cons_ne_nil _ _
      refine ⟨some, ?_, fun violation among => ?_⟩
      · have apart := precise.apart
        rw [← List.map_congr_left paths, ← Function.comp_def, ← List.map_map] at apart
        exact apart.of_map
      · rw [paths violation among]
        exact precise.leads violation among
  | null => cases refused
  | _ =>
      cases refused
      cases unprocessable

/-- In a group, a test that has no field and asks for a missing value where none can be
asked for, beside orders that are no list. -/
def fieldlessFields : List (String × Json) :=
  [("filters", .array
      [.object [("nested", .array
        [.object [("operator", .text "like"), ("value", .null)]])]]),
    ("sort", .text "title")]

/-- The test lacks its field and has a value that does not fit, and the orders are there: the
three paths lead to a key that is lacked and to two values. -/
theorem places_of_parse_fieldlessFields :
    ∃ failure, parse titleWhitelist {} (.object fieldlessFields) = .error failure ∧
      failure.status.code = 422 ∧
      failure.violations.map Violation.field =
        ["filters.0.nested.0.field", "filters.0.nested.0.value", "sort"] ∧
      (failure.violations.map Violation.field).Nodup ∧
      ∀ violation ∈ failure.violations,
        Leads (.object fieldlessFields) (pathNames violation.field) := by
  have refused : ∃ failure, parse titleWhitelist {} (.object fieldlessFields) = .error failure ∧
      failure.status.code = 422 ∧
      failure.violations.map Violation.field =
        ["filters.0.nested.0.field", "filters.0.nested.0.value", "sort"] :=
    ⟨_, rfl, rfl, by decide⟩
  obtain ⟨failure, refused, unprocessable, paths⟩ := refused
  obtain ⟨_, apart, leads⟩ :=
    places_of_parse titleWhitelist {} (.object fieldlessFields) failure refused unprocessable
  exact ⟨failure, refused, unprocessable, paths, apart, leads⟩

end Request

end QueryGate
