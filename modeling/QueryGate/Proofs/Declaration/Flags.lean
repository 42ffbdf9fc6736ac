import QueryGate.Proofs.Declaration.Lists

/-!
# Flags of fields

What a field is marked as is said by the members of its attributes for queries. All of them
have to be flags that are known, and the first that is not spoils the field, after the first
attribute that is no list which can be read (`DeclaredField.flags_eq_error_iff`). Only which
flags there are counts: a field that has the same flags in other lists is marked as the same
(`DeclaredColumns.add_regrouped`).
-/

set_option autoImplicit false

namespace QueryGate

/-! ## Known flags -/

/-- The word for a flag. -/
def FieldFlag.text : FieldFlag → String
  | filterable => "filterable"
  | sortable => "sortable"
  | searchable => "searchable"
  | date => "date"
  | softDelete => "soft_delete"
  | primaryKey => "primary_key"

theorem FieldFlag.ofText?_eq_some_iff (text : String) (flag : FieldFlag) :
    ofText? text = some flag ↔ text = flag.text := by
  constructor
  · intro found
    unfold ofText? at found
    split at found <;> cases found <;> rfl
  · rintro rfl
    cases flag <;> rfl

namespace Member

theorem isFlag_iff (member : Member) (name : String) :
    member.isFlag name = true ↔ ∃ path, member = .flag path ∧ path.name? = some name := by
  cases member with
  | flag path => simp [isFlag, AttributePath.isName]
  | setting path value => simp [isFlag]
  | list path content => simp [isFlag]

/-- The member is one of the flags of fields. -/
def IsKnown (member : Member) : Prop :=
  ∃ flag : FieldFlag, member.isFlag flag.text = true

/-- What is wrong with a member that is none of the flags of fields. -/
inductive Unknown : Member → DeclarationFault → Prop where
  | form {member : Member} : (∀ path, member ≠ .flag path) → Unknown member .expectedFlag
  | flag {path : AttributePath} : ¬ (Member.flag path).IsKnown → Unknown (.flag path) .unknownFlag

end Member

namespace FieldFlag

theorem ofMember_eq_ok_iff (member : Member) (flag : FieldFlag) :
    ofMember member = .ok flag ↔ member.isFlag flag.text = true := by
  rw [Member.isFlag_iff]
  cases member with
  | flag path =>
      rw [ofMember]
      cases name : path.name? with
      | none => simp [name]
      | some text =>
          simp only [Option.bind_some, Member.flag.injEq, exists_eq_left', name, Option.some.injEq,
            ← ofText?_eq_some_iff]
          cases ofText? text <;> simp
  | setting path value => simp [ofMember]
  | list path content => simp [ofMember]

theorem exists_ofMember_iff (member : Member) :
    (∃ flag, ofMember member = .ok flag) ↔ member.IsKnown :=
  exists_congr (ofMember_eq_ok_iff member)

theorem ofMember_eq_error_iff (member : Member) (fault : DeclarationFault) :
    ofMember member = .error fault ↔ member.Unknown fault := by
  constructor
  · intro failed
    cases member with
    | flag path =>
        have unknown : ¬ (Member.flag path).IsKnown := by
          rw [← exists_ofMember_iff, failed]
          rintro ⟨_, impossible⟩
          cases impossible
        rw [ofMember] at failed
        split at failed
        · cases failed
          exact .flag unknown
        · cases failed
    | setting path value =>
        cases failed
        exact .form fun _ impossible => (nomatch impossible)
    | list path content =>
        cases failed
        exact .form fun _ impossible => (nomatch impossible)
  · intro unknown
    cases unknown with
    | form bare =>
        cases member with
        | flag path => exact absurd rfl (bare path)
        | _ => rfl
    | @flag path unknown =>
        rw [← exists_ofMember_iff, ofMember] at unknown
        rw [ofMember]
        split
        · rfl
        · next flag found => exact absurd ⟨flag, by rw [found]⟩ unknown

end FieldFlag

/-! ## Marks -/

namespace DeclaredField

/-- Whether the field has the flag. -/
def has (flag : FieldFlag) (field : DeclaredField) : Bool :=
  match field.flags with
  | .ok flags => flags.contains flag
  | .error _ => false

variable (field : DeclaredField)

/-- The attributes of the field for queries, as members. -/
def queries : List Member :=
  Attribute.named "query" field.attributes

/-- An attribute for queries is no list that can be read, or holds something else than the
flags of fields. -/
def Misused : Prop :=
  ∃ given ∈ field.queries, ∀ members, given.members = .ok members →
    ∃ member ∈ members, ¬ member.IsKnown

/-- The fault of the first attribute for queries that is no list which can be read. Where all
are, the fault of the first member of them that is none of the flags of fields. -/
inductive Misuses (fault : DeclarationFault) : Prop where
  | malformed {before after : List Member} {given : Member} :
      field.queries = before ++ given :: after →
      (∀ earlier ∈ before, ∃ members, earlier.members = .ok members) →
      given.members = .error fault → Misuses fault
  | unknown {lists : List (List Member)} {before after : List Member} {member : Member} :
      field.queries.map Member.members = lists.map .ok →
      lists.flatten = before ++ member :: after →
      (∀ earlier ∈ before, earlier.IsKnown) → member.Unknown fault → Misuses fault

/-- The flag is a member of an attribute for queries that can be read. The primary key may
also be a flag in the shared attributes. -/
def Carries (flag : FieldFlag) : Prop :=
  (∃ given ∈ field.queries, ∃ members, given.members = .ok members ∧
      ∃ member ∈ members, member.isFlag flag.text = true) ∨
    flag = .primaryKey ∧
      ∃ member ∈ Attribute.sharedMembers field.attributes, member.isFlag "primary_key" = true

variable {field}

theorem flags_eq_ok_iff (flags : List FieldFlag) :
    field.flags = .ok flags ↔
      ∃ lists own, field.queries.mapM Member.members = .ok lists ∧
        lists.flatten.mapM FieldFlag.ofMember = .ok own ∧
        flags = if Attribute.hasSharedFlag "primary_key" field.attributes then .primaryKey :: own
          else own := by
  constructor
  · intro made
    obtain ⟨members, read, rest⟩ := (Success.bind_eq_ok_iff _ _ _).mp made
    obtain ⟨own, known, same⟩ := (Success.bind_eq_ok_iff _ _ _).mp rest
    obtain ⟨lists, each, joined⟩ := (Success.bind_eq_ok_iff _ _ _).mp read
    cases joined
    cases same
    exact ⟨lists, own, each, known, rfl⟩
  · rintro ⟨lists, own, each, known, rfl⟩
    unfold queries at each
    rw [flags, Attribute.queryMembers, each]
    show (lists.flatten.mapM FieldFlag.ofMember >>= _) = _
    rw [known]
    rfl

theorem flags_eq_error_iff (fault : DeclarationFault) :
    field.flags = .error fault ↔ field.Misuses fault := by
  have stages : field.flags = .error fault ↔
      field.queries.mapM Member.members = .error fault ∨
        ∃ lists, field.queries.mapM Member.members = .ok lists ∧
          lists.flatten.mapM FieldFlag.ofMember = .error fault := by
    rw [flags, Attribute.queryMembers, ← queries]
    cases field.queries.mapM Member.members with
    | error other => simp [Bind.bind, Except.bind]
    | ok lists =>
        cases known : lists.flatten.mapM FieldFlag.ofMember <;>
          simp [Bind.bind, Except.bind, pure, Except.pure, known]
  rw [stages]
  constructor
  · rintro (failed | ⟨lists, each, failed⟩)
    · obtain ⟨before, given, after, split, earlier, here⟩ :=
        (Success.mapM_eq_error_iff _ _ _).mp failed
      exact .malformed split earlier here
    · obtain ⟨before, member, after, split, earlier, here⟩ :=
        (Success.mapM_eq_error_iff _ _ _).mp failed
      refine .unknown ((Success.mapM_eq_ok_iff _ _ _).mp each) split ?_
        ((FieldFlag.ofMember_eq_error_iff _ _).mp here)
      exact fun member among => (FieldFlag.exists_ofMember_iff member).mp (earlier member among)
  · intro misuses
    cases misuses with
    | malformed split earlier here =>
        exact .inl ((Success.mapM_eq_error_iff _ _ _).mpr ⟨_, _, _, split, earlier, here⟩)
    | unknown each split earlier here =>
        refine .inr ⟨_, (Success.mapM_eq_ok_iff _ _ _).mpr each, ?_⟩
        refine (Success.mapM_eq_error_iff _ _ _).mpr ⟨_, _, _, split, ?_,
          (FieldFlag.ofMember_eq_error_iff _ _).mpr here⟩
        exact fun member among => (FieldFlag.exists_ofMember_iff member).mpr (earlier member among)

theorem exists_flags_iff : (∃ flags, field.flags = .ok flags) ↔ ¬ field.Misused := by
  simp only [flags_eq_ok_iff, Misused, not_exists, not_and, not_forall, not_not]
  constructor
  · rintro ⟨_, lists, own, each, known, rfl⟩ given among
    have listed := (Success.exists_mapM_iff _ _).mp ⟨lists, each⟩ given among
    obtain ⟨members, read⟩ := listed
    refine ⟨members, read, fun member inside => ?_⟩
    have held := (Success.mem_of_mapM each members).mpr ⟨given, among, read⟩
    exact (FieldFlag.exists_ofMember_iff member).mp
      ((Success.exists_mapM_iff _ _).mp ⟨own, known⟩ member (List.mem_flatten_of_mem held inside))
  · intro sound
    have readable : ∀ given ∈ field.queries, ∃ members, given.members = .ok members := by
      intro given among
      obtain ⟨members, read, _⟩ := sound given among
      exact ⟨members, read⟩
    obtain ⟨lists, each⟩ := (Success.exists_mapM_iff _ _).mpr readable
    have known : ∀ member ∈ lists.flatten, ∃ flag, FieldFlag.ofMember member = .ok flag := by
      intro member inside
      obtain ⟨members, held, inside⟩ := List.mem_flatten.mp inside
      obtain ⟨given, among, read⟩ := (Success.mem_of_mapM each members).mp held
      obtain ⟨others, again, all⟩ := sound given among
      cases read.symm.trans again
      exact (FieldFlag.exists_ofMember_iff member).mpr (all member inside)
    obtain ⟨own, made⟩ := (Success.exists_mapM_iff _ _).mpr known
    exact ⟨_, lists, own, each, made, rfl⟩

/-- A misuse has a fault. -/
theorem exists_misuses_iff (field : DeclaredField) :
    (∃ fault, field.Misuses fault) ↔ field.Misused := by
  rw [← not_iff_not, ← exists_flags_iff]
  simp only [← flags_eq_error_iff]
  cases field.flags <;> simp

/-- A field that is in order has the flags that it carries. -/
theorem has_iff (flag : FieldFlag) :
    field.has flag = true ↔ ¬ field.Misused ∧ field.Carries flag := by
  rw [has, ← exists_flags_iff]
  cases made : field.flags with
  | error fault => simp
  | ok flags =>
      obtain ⟨lists, own, each, known, rfl⟩ := (flags_eq_ok_iff flags).mp made
      have shared : Attribute.hasSharedFlag "primary_key" field.attributes = true ↔
          ∃ member ∈ Attribute.sharedMembers field.attributes,
            member.isFlag "primary_key" = true := List.any_eq_true
      have listed : flag ∈ own ↔
          ∃ given ∈ field.queries, ∃ members, given.members = .ok members ∧
            ∃ member ∈ members, member.isFlag flag.text = true := by
        simp only [Success.mem_of_mapM known, List.mem_flatten, Success.mem_of_mapM each,
          FieldFlag.ofMember_eq_ok_iff]
        constructor
        · rintro ⟨member, ⟨members, ⟨given, among, read⟩, inside⟩, marked⟩
          exact ⟨given, among, members, read, member, inside, marked⟩
        · rintro ⟨given, among, members, read, member, inside, marked⟩
          exact ⟨member, ⟨members, ⟨given, among, read⟩, inside⟩, marked⟩
      rw [Carries, ← listed, ← shared]
      cases marked : Attribute.hasSharedFlag "primary_key" field.attributes with
      | false => simp
      | true => simp [or_comm]

end DeclaredField

/-! ## The same flags in other lists -/

namespace Attribute

/-- Whether the attribute is for queries. -/
def isQuery (given : Attribute) : Bool :=
  given.member?.any fun member => member.path.isName "query"

theorem named_query (attributes : List Attribute) :
    named "query" attributes = (attributes.filter isQuery).filterMap member? := by
  rw [named, List.filter_filterMap, List.filterMap_filter]
  refine congrArg (List.filterMap · attributes) (funext fun given => ?_)
  unfold isQuery
  cases given.member? <;> rfl

/-- The shared attributes are among those that are not for queries. -/
theorem named_shared (attributes : List Attribute) :
    named "sea_orm" attributes =
      named "sea_orm" (attributes.filter fun given => !given.isQuery) := by
  rw [named, named, List.filter_filterMap, List.filter_filterMap, List.filterMap_filter]
  refine congrArg (List.filterMap · attributes) (funext fun given => ?_)
  unfold isQuery
  cases given.member? with
  | none => rfl
  | some member =>
      simp only [Option.any_some, AttributePath.isName, Option.filter_some]
      by_cases query : member.path.name? = some "query"
      · simp [query]
      · simp [query]

theorem sharedMembers_congr {attributes others : List Attribute}
    (same : attributes.filter (fun given => !given.isQuery) =
      others.filter fun given => !given.isQuery) :
    sharedMembers attributes = sharedMembers others := by
  rw [sharedMembers, sharedMembers, named_shared, same, ← named_shared]

/-- Attributes that are lists of flags are read as these lists. -/
theorem mapM_members_of_listsFlags {attributes : List Attribute}
    {paths : List (List AttributePath)} (each : List.Forall₂ ListsFlags attributes paths) :
    (attributes.filterMap member?).mapM Member.members =
      .ok (paths.map (List.map Member.flag)) := by
  induction each with
  | nil => rfl
  | cons here _ ih =>
      obtain ⟨list, found, read⟩ := here
      rw [List.filterMap_cons_some found, List.mapM_cons, read, ih]
      rfl

/-- The members of lists of flags stand between those of the other attributes for queries. -/
theorem queryMembers_of_listsFlags {attributes before lists after : List Attribute}
    {paths : List (List AttributePath)}
    (split : attributes.filter isQuery = before ++ lists ++ after)
    (each : List.Forall₂ ListsFlags lists paths) :
    queryMembers attributes = (do
      let early ← (before.filterMap member?).mapM Member.members
      let late ← (after.filterMap member?).mapM Member.members
      return early.flatten ++ paths.flatten.map Member.flag ++ late.flatten) := by
  rw [queryMembers, named_query, split, List.filterMap_append, List.filterMap_append,
    List.mapM_append, List.mapM_append, mapM_members_of_listsFlags each]
  cases (before.filterMap member?).mapM Member.members with
  | error fault => rfl
  | ok early =>
      cases (after.filterMap member?).mapM Member.members with
      | error fault => rfl
      | ok late =>
          refine congrArg Except.ok ?_
          rw [List.flatten_append, List.flatten_append, List.map_flatten]

end Attribute

/-- Both fields are alike but for some of their attributes for queries. These are lists of
flags in both, with the same paths in all of them together. -/
structure DeclaredField.Regroups (first second : DeclaredField) : Prop where
  name : first.name = second.name
  type : first.type = second.type
  others : first.attributes.filter (fun given => !given.isQuery) =
    second.attributes.filter fun given => !given.isQuery
  lists : ∃ before firstLists secondLists after firstPaths secondPaths,
    first.attributes.filter Attribute.isQuery = before ++ firstLists ++ after ∧
    second.attributes.filter Attribute.isQuery = before ++ secondLists ++ after ∧
    List.Forall₂ Attribute.ListsFlags firstLists firstPaths ∧
    List.Forall₂ Attribute.ListsFlags secondLists secondPaths ∧
    ∀ path, path ∈ firstPaths.flatten ↔ path ∈ secondPaths.flatten

/-- The same lists are lists of the same flags. -/
theorem DeclaredField.Regroups.refl (field : DeclaredField) : Regroups field field :=
  ⟨rfl, rfl, rfl, field.attributes.filter Attribute.isQuery, [], [], [], [], [], by simp, by simp,
    .nil, .nil, fun _ => Iff.rfl⟩

instance : Std.Refl DeclaredField.Regroups := ⟨DeclaredField.Regroups.refl⟩

/-- The field with attributes in place of its own. -/
def DeclaredField.withAttributes (field : DeclaredField) (attributes : List Attribute) :
    DeclaredField :=
  { field with attributes := attributes }

/-- Lists of flags for queries can be written as other lists of the same flags, each flag
anywhere and any number of times. -/
theorem DeclaredField.regroups_query (field : DeclaredField) (front back : List Attribute)
    {lists others : List (List Attribute)}
    (flags : ∀ item ∈ lists.flatten ++ others.flatten, item.flagPath?.isSome = true)
    (same : ∀ path, path ∈ lists.flatten.filterMap Attribute.flagPath? ↔
      path ∈ others.flatten.filterMap Attribute.flagPath?) :
    Regroups (field.withAttributes (front ++ lists.map (.list "query") ++ back))
      (field.withAttributes (front ++ others.map (.list "query") ++ back)) := by
  have queries (lists : List (List Attribute)) :
      (lists.map (Attribute.list "query")).filter Attribute.isQuery =
        lists.map (.list "query") := by
    refine List.filter_eq_self.mpr (List.forall_mem_map.mpr fun items _ => ?_)
    rw [Attribute.isQuery, Attribute.member?_query]
    rfl
  have unshared (lists : List (List Attribute)) :
      (lists.map (Attribute.list "query")).filter (fun given => !given.isQuery) = [] := by
    rw [← queries, List.filter_filter]
    simp
  have listed (lists : List (List Attribute))
      (flags : ∀ item ∈ lists.flatten, item.flagPath?.isSome = true) :
      List.Forall₂ Attribute.ListsFlags (lists.map (.list "query"))
        (lists.map (List.filterMap Attribute.flagPath?)) := by
    rw [List.forall₂_map_left_iff, List.forall₂_map_right_iff, List.forall₂_same]
    exact fun items among => Attribute.listsFlags_query fun item inside =>
      flags item (List.mem_flatten_of_mem among inside)
  have paths (lists : List (List Attribute)) :
      (lists.map (List.filterMap Attribute.flagPath?)).flatten =
        lists.flatten.filterMap Attribute.flagPath? :=
    List.filterMap_flatten.symm
  obtain ⟨here, there⟩ := List.forall_mem_append.mp flags
  refine ⟨rfl, rfl, ?_, front.filter Attribute.isQuery, _, _, back.filter Attribute.isQuery, _, _,
    ?_, ?_, listed lists here, listed others there, ?_⟩
  · simp only [withAttributes, List.filter_append, unshared]
  · simp only [withAttributes, List.filter_append, queries]
  · simp only [withAttributes, List.filter_append, queries]
  · rw [paths, paths]
    exact same

/-- The same flags between the same members are known alike, or not. -/
theorem FieldFlag.map_mapM_ofMember_congr (before after : List Member)
    {paths others : List AttributePath} (same : ∀ path, path ∈ paths ↔ path ∈ others) :
    ((before ++ paths.map Member.flag ++ after).mapM ofMember).map
        (fun flags flag => flag ∈ flags) =
      ((before ++ others.map Member.flag ++ after).mapM ofMember).map
        fun flags flag => flag ∈ flags := by
  have between : ((paths.map Member.flag).mapM ofMember).map (fun flags flag => flag ∈ flags) =
      ((others.map Member.flag).mapM ofMember).map fun flags flag => flag ∈ flags := by
    refine Success.map_mapM_congr .unknownFlag (fun member => ?_) ?_
    · simp only [List.mem_map, same]
    · rintro _ among fault failed
      obtain ⟨path, _, rfl⟩ := List.mem_map.mp among
      cases (ofMember_eq_error_iff _ _).mp failed with
      | form bare => exact absurd rfl (bare path)
      | flag _ => rfl
  simp only [List.mapM_append]
  cases before.mapM ofMember with
  | error fault => rfl
  | ok early =>
      rcases Success.alike_of_map_eq between with
        ⟨fault, here, there⟩ | ⟨own, other, here, there, looks⟩
      · rw [here, there]
      · rw [here, there]
        cases after.mapM ofMember with
        | error fault => rfl
        | ok late =>
            refine congrArg Except.ok (funext fun flag => ?_)
            have held : (flag ∈ own) = (flag ∈ other) := congrFun looks flag
            simp only [List.mem_append, held]

namespace DeclaredField.Regroups

variable {first second : DeclaredField}

theorem column (regroups : Regroups first second) : first.column = second.column := by
  rw [DeclaredField.column, DeclaredField.column, Attribute.sharedText?, Attribute.sharedText?,
    Attribute.sharedMembers_congr regroups.others, regroups.name]

/-- The fields are marked as the same, or are spoiled by the same fault. -/
theorem map_flags (regroups : Regroups first second) :
    first.flags.map (fun flags flag => flag ∈ flags) =
      second.flags.map fun flags flag => flag ∈ flags := by
  obtain ⟨before, _, _, after, paths, otherPaths, split, otherSplit, lists, otherLists, same⟩ :=
    regroups.lists
  have shared : Attribute.hasSharedFlag "primary_key" first.attributes =
      Attribute.hasSharedFlag "primary_key" second.attributes := by
    rw [Attribute.hasSharedFlag, Attribute.hasSharedFlag,
      Attribute.sharedMembers_congr regroups.others]
  unfold DeclaredField.flags
  rw [Attribute.queryMembers_of_listsFlags split lists,
    Attribute.queryMembers_of_listsFlags otherSplit otherLists, shared]
  cases (before.filterMap Attribute.member?).mapM Member.members with
  | error fault => rfl
  | ok early =>
      cases (after.filterMap Attribute.member?).mapM Member.members with
      | error fault => rfl
      | ok late =>
          show ((early.flatten ++ paths.flatten.map Member.flag ++ late.flatten).mapM
              FieldFlag.ofMember >>= _).map _ =
            ((early.flatten ++ otherPaths.flatten.map Member.flag ++ late.flatten).mapM
              FieldFlag.ofMember >>= _).map _
          refine Success.map_bind_congr (FieldFlag.map_mapM_ofMember_congr _ _ same) ?_
          intro own other looks
          refine congrArg Except.ok (funext fun flag => ?_)
          have held : (flag ∈ own) = (flag ∈ other) := congrFun looks flag
          split
          · simp only [List.mem_cons, held]
          · exact held

end DeclaredField.Regroups

/-- A field that has the same flags in other lists gives the same columns. -/
theorem DeclaredColumns.add_regrouped (columns : DeclaredColumns) {first second : DeclaredField}
    (regroups : first.Regroups second) : columns.add first = columns.add second := by
  rcases Success.alike_of_map_eq regroups.map_flags with
    ⟨fault, here, there⟩ | ⟨flags, others, here, there, looks⟩
  · rw [add, add, here, there]
    rfl
  · have marked (flag : FieldFlag) : flags.contains flag = others.contains flag := by
      have held : (flag ∈ flags) = (flag ∈ others) := congrFun looks flag
      rw [Bool.eq_iff_iff, List.contains_iff_mem, List.contains_iff_mem, held]
    rw [add, add, here, there]
    show (if flags.contains .softDelete && columns.softDelete.isSome then _ else _) =
      if others.contains .softDelete && columns.softDelete.isSome then _ else _
    simp only [marked, regroups.column, regroups.type]

end QueryGate
