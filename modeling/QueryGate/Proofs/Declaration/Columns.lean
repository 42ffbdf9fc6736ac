import Mathlib.Data.List.Induction
import QueryGate.Proofs.Declaration.Flags

/-!
# The columns that fields give

Fields are gone through in order, and the columns so far are those of the fields so far
(`DeclaredColumns.gathered`). The next field either adds its column to the lists of its flags,
or it is at fault: its attributes are misused, or it is the second one that is marked as the
time of deletion (`Offends`). So the columns of all fields are theirs by their flags, unless
some field is at fault, and then the fault is that of the first one
(`DeclaredColumns.ofFields_gathers`).
-/

set_option autoImplicit false

namespace QueryGate

/-! ## Dates and columns -/

namespace FieldType

/-- The last name of the type is that of a date. -/
def IsNamedDate (type : FieldType) : Prop :=
  ∃ segment, type.lastSegment? = some segment ∧ segment.name ∈ dateNames

/-- The type is an option of the other one. -/
def IsOptionOf (type inner : FieldType) : Prop :=
  ∃ later, type.lastSegment? = some (.mk "Option" (.type inner :: later))

/-- A type is a date by its own name, or as an option of a type that is one by its name. -/
theorem isDate_iff (type : FieldType) :
    type.isDate = true ↔ type.IsNamedDate ∨ ∃ inner, type.IsOptionOf inner ∧ inner.IsNamedDate := by
  have named (type : FieldType) :
      (type.lastSegment?.any fun segment => dateNames.contains segment.name) = true ↔
        type.IsNamedDate := by
    simp [Option.any_eq_true, IsNamedDate]
  unfold isDate
  rw [named, required]
  split
  · next inner later option =>
      constructor
      · intro date
        exact .inr ⟨inner, ⟨later, option⟩, date⟩
      · rintro (⟨segment, last, date⟩ | ⟨held, ⟨_, same⟩, date⟩)
        · cases option.symm.trans last
          have undated : "Option" ∉ dateNames := by decide
          exact absurd date undated
        · cases option.symm.trans same
          exact date
  · next plain =>
      refine ⟨.inl, ?_⟩
      rintro (date | ⟨inner, ⟨later, option⟩, _⟩)
      · exact date
      · exact absurd option (plain inner later)

end FieldType

namespace DeclaredField

/-- The column of a field is what the first of its shared attributes that assigns a text to
`column_name` assigns, or else the name of the field. -/
inductive NamesColumn (field : DeclaredField) (column : String) : Prop where
  | assigned {before after : List Member} {path : AttributePath} :
      Attribute.sharedMembers field.attributes =
        before ++ .setting path (.literal (.text column)) :: after →
      path.isName "column_name" = true →
      (∀ earlier ∈ before, earlier.textOf? "column_name" = none) → NamesColumn field column
  | unassigned :
      (∀ member ∈ Attribute.sharedMembers field.attributes,
        member.textOf? "column_name" = none) →
      column = field.name → NamesColumn field column

theorem namesColumn_column (field : DeclaredField) : field.NamesColumn field.column := by
  unfold column Attribute.sharedText?
  cases found : (Attribute.sharedMembers field.attributes).findSome?
      (Member.textOf? "column_name") with
  | none => exact .unassigned (List.findSome?_eq_none_iff.mp found) rfl
  | some text =>
      obtain ⟨before, member, after, split, assigns, earlier⟩ :=
        List.findSome?_eq_some_iff.mp found
      unfold Member.textOf? at assigns
      split at assigns
      · split at assigns
        · next named =>
            cases assigns
            exact .assigned split named earlier
        · cases assigns
      · cases assigns

/-- Whether the field is compared by its date alone. -/
def holdsDate (field : DeclaredField) : Bool :=
  field.has .date || field.type.isDate

end DeclaredField

/-- The columns of the fields that have a flag, in the order of the fields. -/
def flaggedColumns (flag : FieldFlag) (fields : List DeclaredField) : List String :=
  (fields.filter (DeclaredField.has flag)).map DeclaredField.column

/-! ## One field after others -/

namespace DeclaredColumns

/-- What is wrong with a field after others: its attributes are misused, or one before it is
marked as the time of deletion as well. -/
inductive Offends (before : List DeclaredField) (field : DeclaredField) :
    DeclarationFault → Prop where
  | misused {fault : DeclarationFault} : field.Misuses fault → Offends before field fault
  | second {earlier : DeclaredField} :
      earlier ∈ before → earlier.has .softDelete = true → field.has .softDelete = true →
      Offends before field .secondSoftDelete

/-- None of the fields is at fault: the attributes of none are misused, and no two are marked
as the time of deletion. -/
structure Faultless (fields : List DeclaredField) : Prop where
  sound : ∀ field ∈ fields, ¬ field.Misused
  once : fields.countP (DeclaredField.has .softDelete) ≤ 1

theorem Faultless.append_singleton_iff (fields : List DeclaredField) (field : DeclaredField) :
    Faultless (fields ++ [field]) ↔ Faultless fields ∧ ∀ fault, ¬ Offends fields field fault := by
  have marked : (∃ earlier ∈ fields, earlier.has .softDelete = true) ↔
      0 < fields.countP (DeclaredField.has .softDelete) := List.countP_pos_iff.symm
  have used : (∃ fault, field.Misuses fault) ↔ field.Misused := field.exists_misuses_iff
  constructor
  · rintro ⟨sound, once⟩
    rw [List.countP_append, List.countP_singleton] at once
    obtain ⟨before, here⟩ := List.forall_mem_append.mp sound
    refine ⟨⟨before, by omega⟩, fun fault offends => ?_⟩
    cases offends with
    | misused misuses => exact here field List.mem_cons_self (used.mp ⟨fault, misuses⟩)
    | second among one other =>
        have earlier := marked.mp ⟨_, among, one⟩
        rw [if_pos other] at once
        omega
  · rintro ⟨⟨sound, once⟩, free⟩
    refine ⟨List.forall_mem_append.mpr ⟨sound, List.forall_mem_singleton.mpr fun misused => ?_⟩, ?_⟩
    · obtain ⟨fault, misuses⟩ := used.mpr misused
      exact free fault (.misused misuses)
    · rw [List.countP_append, List.countP_singleton]
      split
      · next other =>
          have none : ¬ 0 < fields.countP (DeclaredField.has .softDelete) := by
            rw [← marked]
            rintro ⟨earlier, among, one⟩
            exact free _ (.second among one other)
          omega
      · exact once

/-- The columns of fields by their flags, in the order of the fields. The primary key and the
time of deletion are those of the first field so marked. -/
def gathered (fields : List DeclaredField) : DeclaredColumns where
  primaryKey := (fields.find? (DeclaredField.has .primaryKey)).map DeclaredField.column
  softDelete := (fields.find? (DeclaredField.has .softDelete)).map DeclaredField.column
  filterable := flaggedColumns .filterable fields
  sortable := flaggedColumns .sortable fields
  searchable := flaggedColumns .searchable fields
  dateFields := (fields.filter DeclaredField.holdsDate).map DeclaredField.column

theorem addIf_append (marks : DeclaredField → Bool) (fields : List DeclaredField)
    (field : DeclaredField) :
    addIf (marks field) field.column ((fields.filter marks).map DeclaredField.column) =
      ((fields ++ [field]).filter marks).map DeclaredField.column := by
  unfold addIf
  rw [List.filter_append, List.map_append]
  cases marked : marks field <;> simp [marked]

/-- The columns of one more field, unless it is the second that is marked as the time of
deletion. -/
theorem add_gathered (fields : List DeclaredField) {field : DeclaredField}
    {flags : List FieldFlag} (made : field.flags = .ok flags) :
    (gathered fields).add field =
      if field.has .softDelete && fields.any (DeclaredField.has .softDelete) then
        .error .secondSoftDelete
      else .ok (gathered (fields ++ [field])) := by
  have has (flag : FieldFlag) : flags.contains flag = field.has flag := by
    rw [DeclaredField.has, made]
  have earlier : (gathered fields).softDelete.isSome =
      fields.any (DeclaredField.has .softDelete) := by
    rw [gathered, Option.isSome_map, List.isSome_find?]
  have dated : (field.has .date || field.type.isDate) = field.holdsDate := rfl
  rw [add, made]
  show (if flags.contains .softDelete && (gathered fields).softDelete.isSome then _ else _) = _
  simp only [has, earlier, dated]
  split
  · rfl
  · next single =>
      refine congrArg Except.ok ?_
      unfold gathered flaggedColumns
      simp only [addIf_append, DeclaredColumns.mk.injEq, and_true]
      constructor
      · rw [List.find?_append, Option.map_or]
        cases fields.find? (DeclaredField.has .primaryKey) with
        | some first => rfl
        | none => cases marked : field.has .primaryKey <;> simp [marked]
      · rw [List.find?_append, Option.map_or]
        cases marked : field.has .softDelete with
        | false => simp [marked]
        | true =>
            have none : fields.find? (DeclaredField.has .softDelete) = none := by
              rw [marked, Bool.true_and] at single
              simpa using single
            simp [marked, none]

theorem add_gathered_eq_error_iff (fields : List DeclaredField) (field : DeclaredField)
    (fault : DeclarationFault) :
    (gathered fields).add field = .error fault ↔ Offends fields field fault := by
  cases made : field.flags with
  | error other =>
      have failed : (gathered fields).add field = .error other := by
        rw [add, made]
        rfl
      rw [failed]
      constructor
      · intro same
        cases same
        exact .misused ((DeclaredField.flags_eq_error_iff fault).mp made)
      · intro offends
        cases offends with
        | misused misuses =>
            cases made.symm.trans ((DeclaredField.flags_eq_error_iff fault).mpr misuses)
            rfl
        | second _ _ marked =>
            rw [DeclaredField.has, made] at marked
            cases marked
  | ok flags =>
      rw [add_gathered fields made]
      constructor
      · intro failed
        split at failed
        · next both =>
            cases failed
            obtain ⟨here, there⟩ := Bool.and_eq_true_iff.mp both
            obtain ⟨earlier, among, marked⟩ := List.any_eq_true.mp there
            exact .second among marked here
        · cases failed
      · intro offends
        cases offends with
        | misused misuses =>
            cases made.symm.trans ((DeclaredField.flags_eq_error_iff fault).mpr misuses)
        | second among earlier here =>
            rw [here, List.any_eq_true.mpr ⟨_, among, earlier⟩]
            rfl

theorem add_gathered_eq_ok_iff (fields : List DeclaredField) (field : DeclaredField)
    (columns : DeclaredColumns) :
    (gathered fields).add field = .ok columns ↔
      (∀ fault, ¬ Offends fields field fault) ∧ columns = gathered (fields ++ [field]) := by
  simp only [← add_gathered_eq_error_iff]
  cases made : field.flags with
  | error fault =>
      have failed : (gathered fields).add field = .error fault := by
        rw [add, made]
        rfl
      simp [failed]
  | ok flags =>
      rw [add_gathered fields made]
      split
      · simp
      · simp [eq_comm]

/-! ## All fields -/

/-- Fields give columns exactly where none is at fault, and then those of their flags. -/
theorem ofFields_eq_ok_iff (fields : List DeclaredField) (columns : DeclaredColumns) :
    ofFields fields = .ok columns ↔ Faultless fields ∧ columns = gathered fields := by
  induction fields using List.reverseRecOn generalizing columns with
  | nil =>
      have free : Faultless [] := ⟨List.forall_mem_nil _, Nat.zero_le _⟩
      rw [and_iff_right free]
      exact ⟨fun made => (Except.ok.inj made).symm, fun same => congrArg Except.ok same.symm⟩
  | append_singleton fields field ih =>
      have step : ofFields (fields ++ [field]) =
          ofFields fields >>= fun columns => columns.add field := by
        rw [ofFields, List.foldlM_append, ← ofFields]
        simp
      rw [step, Success.bind_eq_ok_iff, Faultless.append_singleton_iff]
      constructor
      · rintro ⟨between, reached, added⟩
        obtain ⟨free, rfl⟩ := (ih between).mp reached
        obtain ⟨here, same⟩ := (add_gathered_eq_ok_iff fields field columns).mp added
        exact ⟨⟨free, here⟩, same⟩
      · rintro ⟨⟨free, here⟩, same⟩
        exact ⟨_, (ih _).mpr ⟨free, rfl⟩, (add_gathered_eq_ok_iff _ _ _).mpr ⟨here, same⟩⟩

/-- Otherwise the fault is that of the first field at fault. -/
theorem ofFields_eq_error_iff (fields : List DeclaredField) (fault : DeclarationFault) :
    ofFields fields = .error fault ↔
      ∃ before field after, fields = before ++ field :: after ∧ Faultless before ∧
        Offends before field fault := by
  rw [ofFields, Success.foldlM_eq_error_iff]
  constructor
  · rintro ⟨before, field, after, between, split, reached, failed⟩
    obtain ⟨free, rfl⟩ := (ofFields_eq_ok_iff before between).mp reached
    exact ⟨before, field, after, split, free, (add_gathered_eq_error_iff _ _ _).mp failed⟩
  · rintro ⟨before, field, after, split, free, offends⟩
    exact ⟨before, field, after, _, split, (ofFields_eq_ok_iff before _).mpr ⟨free, rfl⟩,
      (add_gathered_eq_error_iff _ _ _).mpr offends⟩

/-- There is a fault where the attributes of a field are misused, or where two fields are marked
as the time of deletion. -/
theorem exists_fault_iff (fields : List DeclaredField) :
    (∃ fault, ofFields fields = .error fault) ↔
      (∃ field ∈ fields, field.Misused) ∨
        ∃ one other, [one, other].Sublist fields ∧ one.Carries .softDelete ∧
          other.Carries .softDelete := by
  have made : (∃ fault, ofFields fields = .error fault) ↔ ¬ Faultless fields := by
    have free : Faultless fields ↔ ∃ columns, ofFields fields = .ok columns := by
      simp [ofFields_eq_ok_iff]
    rw [free]
    cases ofFields fields <;> simp
  rw [made]
  constructor
  · intro faulty
    by_contra free
    obtain ⟨sound, single⟩ := not_or.mp free
    refine faulty ⟨fun field among misused => sound ⟨field, among, misused⟩, ?_⟩
    by_contra twice
    rw [List.countP_eq_length_filter] at twice
    -- The first two of the marked fields stand in this order among all fields.
    match marked : fields.filter (DeclaredField.has .softDelete) with
    | [] => simp [marked] at twice
    | [_] => simp [marked] at twice
    | one :: other :: rest =>
        have both : ∀ field ∈ [one, other], field.Carries .softDelete := by
          intro field among
          have listed : field ∈ fields.filter (DeclaredField.has .softDelete) :=
            marked ▸ List.mem_append_left rest among
          exact ((DeclaredField.has_iff _).mp (List.mem_filter.mp listed).2).2
        have within : [one, other].Sublist (fields.filter (DeclaredField.has .softDelete)) :=
          marked ▸ List.sublist_append_left [one, other] rest
        exact single ⟨one, other, within.trans List.filter_sublist,
          both one List.mem_cons_self, both other (List.mem_cons_of_mem _ List.mem_cons_self)⟩
  · rintro (⟨field, among, misused⟩ | ⟨one, other, within, first, second⟩) ⟨sound, once⟩
    · exact sound field among misused
    · have marked : ∀ field ∈ [one, other], field.has .softDelete = true := by
        intro field among
        refine (DeclaredField.has_iff _).mpr ⟨sound field (within.subset among), ?_⟩
        rcases List.mem_cons.mp among with rfl | last
        · exact first
        · exact List.mem_singleton.mp last ▸ second
      have two : [one, other].countP (DeclaredField.has .softDelete) = 2 :=
        List.countP_eq_length.mpr marked
      have fewer : [one, other].countP (DeclaredField.has .softDelete) ≤
          fields.countP (DeclaredField.has .softDelete) := within.countP_le
      omega

/-- The time of deletion is the column of the one field so marked, if there is one. -/
theorem softDelete_gathered {fields : List DeclaredField} (free : Faultless fields) :
    (gathered fields).softDelete.toList = flaggedColumns .softDelete fields := by
  have once := free.once
  rw [List.countP_eq_length_filter] at once
  show ((fields.find? (DeclaredField.has .softDelete)).map DeclaredField.column).toList =
    (fields.filter (DeclaredField.has .softDelete)).map DeclaredField.column
  rw [← List.head?_filter]
  match marked : fields.filter (DeclaredField.has .softDelete) with
  | [] => rfl
  | [_] => rfl
  | _ :: _ :: _ => simp [marked] at once

theorem ofFields_regrouped {fields others : List DeclaredField}
    (each : List.Forall₂ DeclaredField.Regroups fields others) :
    ofFields fields = ofFields others := by
  have further (columns : DeclaredColumns) :
      fields.foldlM add columns = others.foldlM add columns := by
    induction each generalizing columns with
    | nil => rfl
    | cons here _ ih =>
        rw [List.foldlM_cons, List.foldlM_cons, add_regrouped columns here]
        exact congrArg _ (funext ih)
  exact further {}

/-- What a list of fields says about the columns. There is a fault exactly where a field misuses
the attributes for queries or two fields are marked as the time of deletion, and it is that of
the first field at fault. Otherwise the columns are those of the flags that the fields carry, in
the order of the fields. Fields whose flags are grouped into other lists say the same. -/
theorem ofFields_gathers (fields : List DeclaredField) :
    ((∃ fault, ofFields fields = .error fault) ↔
      (∃ field ∈ fields, field.Misused) ∨
        ∃ one other, [one, other].Sublist fields ∧ one.Carries .softDelete ∧
          other.Carries .softDelete) ∧
    (∀ fault, ofFields fields = .error fault ↔
      ∃ before field after, fields = before ++ field :: after ∧ Faultless before ∧
        Offends before field fault) ∧
    (∀ columns, ofFields fields = .ok columns →
      columns = gathered fields ∧
        columns.softDelete.toList = flaggedColumns .softDelete fields) ∧
    (∀ field ∈ fields,
      (∀ flag, field.has flag = true ↔ ¬ field.Misused ∧ field.Carries flag) ∧
      (field.holdsDate = true ↔ field.has .date = true ∨ field.type.IsNamedDate ∨
        ∃ inner, field.type.IsOptionOf inner ∧ inner.IsNamedDate) ∧
      field.NamesColumn field.column) ∧
    (∀ others, List.Forall₂ DeclaredField.Regroups fields others →
      ofFields fields = ofFields others) ∧
    ∀ (before after : List DeclaredField) (field : DeclaredField) (front back : List Attribute)
      (lists others : List (List Attribute)),
      fields =
        before ++ field.withAttributes (front ++ lists.map (.list "query") ++ back) :: after →
      (∀ item ∈ lists.flatten ++ others.flatten, item.flagPath?.isSome = true) →
      (∀ path, path ∈ lists.flatten.filterMap Attribute.flagPath? ↔
        path ∈ others.flatten.filterMap Attribute.flagPath?) →
      ofFields fields =
        ofFields (before ++
          field.withAttributes (front ++ others.map (.list "query") ++ back) :: after) := by
  refine ⟨exists_fault_iff fields, ofFields_eq_error_iff fields, ?_, ?_, ?_, ?_⟩
  · intro columns made
    obtain ⟨free, rfl⟩ := (ofFields_eq_ok_iff fields columns).mp made
    exact ⟨rfl, softDelete_gathered free⟩
  · intro field _
    refine ⟨DeclaredField.has_iff, ?_, field.namesColumn_column⟩
    rw [DeclaredField.holdsDate, Bool.or_eq_true, FieldType.isDate_iff]
  · exact fun others each => ofFields_regrouped each
  · rintro before after field front back lists others rfl flags same
    refine ofFields_regrouped (List.rel_append ?_ (.cons ?_ ?_))
    · exact List.forall₂_refl before
    · exact field.regroups_query front back flags same
    · exact List.forall₂_refl after

/-- A title with lists of flags for queries. -/
def flaggedTitle (lists : List (List Attribute)) : DeclaredField :=
  { name := "title", type := .other, attributes := lists.map (.list "query") }

/-- Two flags give the same columns in one list, and in two with one of them repeated. -/
theorem ofFields_gathers_flaggedTitle :
    ofFields [flaggedTitle [[.flag "filterable", .flag "sortable"]]] =
      .ok { filterable := ["title"], sortable := ["title"] } ∧
    ofFields [flaggedTitle [[.flag "filterable", .flag "sortable"]]] =
      ofFields [flaggedTitle [[.flag "sortable"], [.flag "filterable", .flag "sortable"]]] := by
  have filterable : (Attribute.flag "filterable").flagPath? = some ⟨false, ["filterable"]⟩ := by
    with_unfolding_all rfl
  have sortable : (Attribute.flag "sortable").flagPath? = some ⟨false, ["sortable"]⟩ := by
    with_unfolding_all rfl
  have made : ofFields [flaggedTitle [[.flag "filterable", .flag "sortable"]]] =
      .ok { filterable := ["title"], sortable := ["title"] } := by with_unfolding_all rfl
  obtain ⟨_, _, _, _, _, regrouped⟩ :=
    ofFields_gathers [flaggedTitle [[.flag "filterable", .flag "sortable"]]]
  refine ⟨made, regrouped [] [] (flaggedTitle []) [] [] [[.flag "filterable", .flag "sortable"]]
    [[.flag "sortable"], [.flag "filterable", .flag "sortable"]] rfl ?_ ?_⟩
  · simp [filterable, sortable]
  · intro path
    simp only [List.flatten_cons, List.flatten_nil, List.cons_append, List.nil_append,
      List.filterMap_cons, List.filterMap_nil, filterable, sortable, List.mem_cons,
      List.not_mem_nil, or_false]
    tauto

end DeclaredColumns

end QueryGate
