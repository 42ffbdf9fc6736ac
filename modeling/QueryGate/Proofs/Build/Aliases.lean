import Mathlib.Data.List.Infix
import QueryGate.Proofs.Build.Parallel

/-!
# Aliases of paths

The alias of a path is its names with two underscores between them. The names hold no
dots, so the alias of a single name is the name itself. An alias grows with every name
once the path has begun, and the pivot table of a relation has a longer alias than the
relation.

Nothing keeps a name from holding two underscores, so an alias does not tell the names it
is made of. It does where the names are tidy: not empty, without two underscores in a row,
and not ending in one (`TidyPath.pathAlias_injective`).
-/

set_option autoImplicit false

namespace QueryGate

/-! ## Names without dots -/

/-- A segment holds no separator. -/
theorem not_mem_of_mem_segments {separator : Char} {characters segment : List Char}
    (among : segment ∈ Text.segments separator characters) : separator ∉ segment := by
  induction characters generalizing segment with
  | nil =>
      rw [Text.segments, List.mem_singleton] at among
      rw [among]
      exact List.not_mem_nil
  | cons first rest ih =>
      rw [Text.segments] at among
      split at among
      · rcases List.mem_cons.mp among with rfl | later
        · exact List.not_mem_nil
        · exact ih later
      · next other =>
          cases found : Text.segments separator rest with
          | nil => exact absurd found (Text.segments_ne_nil separator rest)
          | cons piece pieces =>
              rw [found] at among
              rcases List.mem_cons.mp among with rfl | later
              · have unheld : separator ∉ piece := ih (found ▸ List.mem_cons_self)
                simp [Ne.symm other, unheld]
              · exact ih (found ▸ List.mem_cons_of_mem piece later)

theorem dotless_of_mem_relationNames {path name : String} (among : name ∈ relationNames path) :
    '.' ∉ name.toList := by
  obtain ⟨segment, inSegments, rfl⟩ := List.mem_map.mp among
  rw [String.toList_ofList]
  exact not_mem_of_mem_segments inSegments

theorem substitute_of_not_mem {character : Char} {characters : List Char}
    (absent : character ∉ characters) (replacement : List Char) :
    Text.substitute character replacement characters = characters := by
  induction characters with
  | nil => rfl
  | cons first rest ih =>
      obtain ⟨other, later⟩ := not_or.mp (mt List.mem_cons.mpr absent)
      have tail : Text.substitute character replacement (first :: rest) =
          first :: Text.substitute character replacement rest := by
        simp [Text.substitute, Ne.symm other]
      rw [tail, ih later]

/-- Names with two underscores before each. -/
def spacedNames (names : List String) : List Char :=
  names.flatMap fun name => '_' :: '_' :: name.toList

/-- The alias of a path that has begun is its names with two underscores between them. -/
theorem toList_pathAlias_cons {name : String} (begun : name ≠ "") (names : List String)
    (dotless : ∀ other ∈ name :: names, '.' ∉ other.toList) :
    (pathAlias (name :: names)).toList = name.toList ++ spacedNames names := by
  obtain ⟨here, later⟩ := List.forall_mem_cons.mp dotless
  have text : (pathText (name :: names)).toList =
      name.toList ++ names.flatMap fun other => '.' :: other.toList :=
    toList_foldl_extendPath begun names
  have spaced : Text.substitute '.' ['_', '_'] (names.flatMap fun other => '.' :: other.toList) =
      spacedNames names := by
    rw [Text.substitute, List.flatMap_assoc]
    refine List.flatMap_congr fun other among => ?_
    have kept := substitute_of_not_mem (later other among) ['_', '_']
    rw [Text.substitute] at kept
    rw [List.flatMap_cons, kept]
    rfl
  have first := substitute_of_not_mem here ['_', '_']
  rw [Text.substitute] at first spaced
  rw [pathAlias, toList_relationAlias, text, Text.substitute, List.flatMap_append, first, spaced]

/-- The alias of a single name is the name. -/
theorem pathAlias_singleton {name : String} (dotless : '.' ∉ name.toList) :
    pathAlias [name] = name := by
  rw [← String.toList_inj, pathAlias, toList_relationAlias]
  exact substitute_of_not_mem dotless _

/-! ## Aliases that grow -/

theorem length_pathAlias_le (names : List String) (name : String) :
    (pathAlias names).toList.length ≤ (pathAlias (names ++ [name])).toList.length := by
  by_cases begun : pathText names = ""
  · rw [(pathAlias_eq_empty_iff names).mpr begun]
    exact Nat.zero_le _
  · exact (length_pathAlias_lt begun name).le

/-- One more name makes another alias, unless all names are empty. -/
theorem pathAlias_append_singleton_eq_iff (names : List String) (name : String) :
    pathAlias (names ++ [name]) = pathAlias names ↔ ∀ other ∈ names ++ [name], other = "" := by
  rw [← pathText_eq_empty_iff, ← pathAlias_eq_empty_iff]
  constructor
  · intro same
    by_cases begun : pathText names = ""
    · rw [same, pathAlias_eq_empty_iff, begun]
    · have longer := length_pathAlias_lt begun name
      rw [same] at longer
      exact absurd longer (Nat.lt_irrefl _)
  · intro empty
    have shorter := length_pathAlias_le names name
    rw [empty] at shorter
    rw [empty]
    exact (String.toList_inj.mp (List.eq_nil_of_length_eq_zero (Nat.le_zero.mp shorter))).symm

theorem toList_pivotAlias (hopAlias : String) :
    (pivotAlias hopAlias).toList = hopAlias.toList ++ "__pivot".toList := by
  rw [pivotAlias, String.toList_append]

/-- A pivot table has a longer alias than its relation. -/
theorem length_pivotAlias (hopAlias : String) :
    (pivotAlias hopAlias).toList.length = hopAlias.toList.length + 7 := by
  rw [toList_pivotAlias, List.length_append]
  rfl

theorem pivotAlias_ne_of_length_le {hopAlias other : String}
    (shorter : other.toList.length ≤ hopAlias.toList.length) : pivotAlias hopAlias ≠ other := by
  rintro rfl
  rw [length_pivotAlias] at shorter
  omega

theorem pivotAlias_injective {hopAlias other : String}
    (same : pivotAlias hopAlias = pivotAlias other) : hopAlias = other := by
  have texts := congrArg String.toList same
  rw [toList_pivotAlias, toList_pivotAlias, List.append_left_inj] at texts
  exact String.toList_inj.mp texts

/-! ## Tidy names -/

/-- The name is not empty, has no two underscores in a row, and does not end in one. -/
def IsTidy (name : String) : Prop :=
  name ≠ "" ∧ ¬ ['_', '_'] <:+: name.toList ++ ['_']

instance (name : String) : Decidable (IsTidy name) :=
  inferInstanceAs (Decidable (_ ∧ _))

namespace IsTidy

variable {name other : String} {names others : List String}

/-- Nothing with two underscores in it is a tidy name. -/
theorem not_doubled (tidy : IsTidy name) : ¬ ['_', '_'] <:+: name.toList :=
  fun within => tidy.2 (within.trans (List.prefix_append _ _).isInfix)

/-- Two underscores behind a tidy name show where it ends. -/
theorem eq_of_append_eq (tidy : IsTidy name) (tidyOther : IsTidy other) {rest more : List Char}
    (same : name.toList ++ '_' :: '_' :: rest = other.toList ++ '_' :: '_' :: more) :
    name = other ∧ rest = more := by
  -- What one name has beyond the other would begin with an underscore, and end the name
  -- or be followed by another underscore.
  have beyond {first second : String} (tidySecond : IsTidy second) {behind between : List Char}
      {character : Char} {after : List Char}
      (longer : second.toList = first.toList ++ character :: between)
      (written : '_' :: '_' :: behind = character :: between ++ '_' :: '_' :: after) : False := by
    obtain ⟨rfl, further⟩ := List.cons.inj written
    refine tidySecond.2 ⟨first.toList, (between ++ ['_']).tail, ?_⟩
    rw [longer]
    cases between with
    | nil => simp
    | cons next between =>
        obtain ⟨rfl, _⟩ := List.cons.inj further
        simp
  rcases List.append_eq_append_iff.mp same with
    ⟨between, longer, written⟩ | ⟨between, longer, written⟩
  · cases between with
    | nil =>
        rw [List.append_nil] at longer
        exact ⟨(String.toList_inj.mp longer).symm, by simpa using written⟩
    | cons character between => exact (beyond tidyOther longer written).elim
  · cases between with
    | nil =>
        rw [List.append_nil] at longer
        exact ⟨String.toList_inj.mp longer, by simpa using written.symm⟩
    | cons character between => exact (beyond tidy longer written).elim

/-- Tidy names with two underscores between them can be told apart. -/
theorem eq_of_spaced_eq (tidy : ∀ each ∈ name :: names, IsTidy each)
    (tidyOther : ∀ each ∈ other :: others, IsTidy each)
    (same : name.toList ++ spacedNames names = other.toList ++ spacedNames others) :
    name :: names = other :: others := by
  induction names generalizing name other others with
  | nil =>
      cases others with
      | nil =>
          simp only [spacedNames, List.flatMap_nil, List.append_nil] at same
          rw [String.toList_inj.mp same]
      | cons next others =>
          refine absurd ?_ (tidy name List.mem_cons_self).not_doubled
          rw [show name.toList = _ from (List.append_nil _).symm.trans same]
          exact ⟨other.toList, next.toList ++ spacedNames others, by simp [spacedNames]⟩
  | cons next names ih =>
      cases others with
      | nil =>
          refine absurd ?_ (tidyOther other List.mem_cons_self).not_doubled
          rw [show other.toList = _ from (List.append_nil _).symm.trans same.symm]
          exact ⟨name.toList, next.toList ++ spacedNames names, by simp [spacedNames]⟩
      | cons following others =>
          obtain ⟨here, later⟩ := List.forall_mem_cons.mp tidy
          obtain ⟨hereOther, laterOther⟩ := List.forall_mem_cons.mp tidyOther
          have spaced : name.toList ++ '_' :: '_' :: (next.toList ++ spacedNames names) =
              other.toList ++ '_' :: '_' :: (following.toList ++ spacedNames others) := by
            simpa [spacedNames] using same
          obtain ⟨first, rest⟩ := here.eq_of_append_eq hereOther spaced
          rw [first, ih later laterOther rest]

end IsTidy

/-- The names are tidy and hold no dots. -/
def TidyPath (names : List String) : Prop :=
  ∀ name ∈ names, IsTidy name ∧ '.' ∉ name.toList

namespace TidyPath

variable {names others : List String}

theorem tidy (path : TidyPath names) : ∀ name ∈ names, IsTidy name :=
  fun name among => (path name among).1

theorem dotless (path : TidyPath names) : ∀ name ∈ names, '.' ∉ name.toList :=
  fun name among => (path name among).2

/-- The name of the pivot table is tidy. -/
theorem append_pivotName (path : TidyPath names) : TidyPath (names ++ [pivotName]) := by
  intro name among
  rcases List.mem_append.mp among with before | last
  · exact path name before
  · rw [List.mem_singleton.mp last]
    decide

/-- A path of tidy names that has the empty alias has no names. -/
theorem eq_nil_of_pathAlias_eq_empty (path : TidyPath names) (empty : pathAlias names = "") :
    names = [] := by
  have all := (pathText_eq_empty_iff names).mp ((pathAlias_eq_empty_iff names).mp empty)
  exact List.eq_nil_iff_forall_not_mem.mpr fun name among =>
    (path.tidy name among).1 (all name among)

/-- An alias tells the names of its path where the names are tidy. -/
theorem pathAlias_injective (path : TidyPath names) (pathOther : TidyPath others)
    (same : pathAlias names = pathAlias others) : names = others := by
  cases names with
  | nil => exact (pathOther.eq_nil_of_pathAlias_eq_empty same.symm).symm
  | cons name names =>
      cases others with
      | nil => exact path.eq_nil_of_pathAlias_eq_empty same
      | cons other others =>
          refine IsTidy.eq_of_spaced_eq path.tidy pathOther.tidy ?_
          rw [← toList_pathAlias_cons (path.tidy name List.mem_cons_self).1 names path.dotless,
            ← toList_pathAlias_cons (pathOther.tidy other List.mem_cons_self).1 others
              pathOther.dotless, same]

/-- The alias of a pivot table reads as one more name. -/
theorem pivotAlias_pathAlias (path : TidyPath names) (some : names ≠ []) :
    pivotAlias (pathAlias names) = pathAlias (names ++ [pivotName]) := by
  cases names with
  | nil => exact absurd rfl some
  | cons name names =>
      have begun := (path.tidy name List.mem_cons_self).1
      have extended : (pathAlias (name :: names ++ [pivotName])).toList =
          name.toList ++ spacedNames (names ++ [pivotName]) :=
        toList_pathAlias_cons begun _ path.append_pivotName.dotless
      rw [← String.toList_inj, toList_pivotAlias, toList_pathAlias_cons begun _ path.dotless,
        extended, spacedNames, spacedNames, List.flatMap_append, List.append_assoc]
      rfl

/-- The alias of a path of tidy names is that of a pivot table only where the path ends in
the name of the pivot table. -/
theorem eq_append_pivotName (path : TidyPath names) (pathOther : TidyPath others)
    (some : others ≠ []) (same : pathAlias names = pivotAlias (pathAlias others)) :
    names = others ++ [pivotName] := by
  rw [pathOther.pivotAlias_pathAlias some] at same
  exact path.pathAlias_injective pathOther.append_pivotName same

end TidyPath

end QueryGate
