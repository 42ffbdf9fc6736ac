import QueryGate.Declaration.Basic
import QueryGate.Proofs.Success

/-!
# Where a page size comes from

The page size of a resource can be set by the host, declared for its model, or left to the
configuration, in this order (`pageSize`). Host and configuration can speak more than once,
and the last word of each counts, in whatever order they come.

A declared size counts as set when it is not the usual one, so a model that declares the
usual size is taken for one that declares none. This is the only way in which a resource
departs from the order: the usual size is declared, the host sets none, and the configuration
has another one (`defaultLimit_afterCalls`).
-/

set_option autoImplicit false

namespace QueryGate

/-! ## The calls of the host -/

/-- A call by which the host changes the page size of a resource. -/
inductive PageCall where
  | configure (config : Config)
  | paginateBy (limit : UInt64)

namespace PageCall

/-- The size that the call sets for the resource. -/
def limit? : PageCall → Option UInt64
  | configure _ => none
  | paginateBy limit => some limit

/-- The configuration that the call gives. -/
def config? : PageCall → Option Config
  | configure config => some config
  | paginateBy _ => none

/-- The size that is set last. -/
def lastLimit? (calls : List PageCall) : Option UInt64 :=
  (calls.filterMap limit?).getLast?

/-- The configuration that is given last. -/
def lastConfig? (calls : List PageCall) : Option Config :=
  (calls.filterMap config?).getLast?

end PageCall

namespace Resource

/-- The resource after a call. -/
def afterCall (resource : Resource) : PageCall → Resource
  | .configure config => resource.configure config
  | .paginateBy limit => resource.paginateBy limit

/-- The resource after calls, one after another. -/
def afterCalls (resource : Resource) (calls : List PageCall) : Resource :=
  calls.foldl afterCall resource

variable (resource : Resource)

/-- A call sets the size, or leaves it as it is. -/
theorem pageLimit_afterCall (call : PageCall) :
    (resource.afterCall call).pageLimit = call.limit?.or resource.pageLimit := by
  cases call <;> rfl

theorem config_afterCall (call : PageCall) :
    (resource.afterCall call).config = call.config?.getD resource.config := by
  cases call <;> rfl

end Resource

/-- The last of what the items give is that of the later ones, or else of the first. -/
theorem getLast?_filterMap_cons {α β : Type} (gives : α → Option β) (item : α) (items : List α) :
    ((item :: items).filterMap gives).getLast? =
      ((items.filterMap gives).getLast?).or (gives item) := by
  cases given : gives item with
  | none => rw [List.filterMap_cons_none given, Option.or_none]
  | some value =>
      rw [List.filterMap_cons_some given, List.getLast?_cons]
      cases (items.filterMap gives).getLast? <;> rfl

namespace Resource

variable (resource : Resource)

theorem pageLimit_afterCalls (calls : List PageCall) :
    (resource.afterCalls calls).pageLimit =
      (PageCall.lastLimit? calls).or resource.pageLimit := by
  induction calls generalizing resource with
  | nil => rfl
  | cons call calls ih =>
      rw [afterCalls, List.foldl_cons, ← afterCalls, ih, pageLimit_afterCall, PageCall.lastLimit?,
        PageCall.lastLimit?, getLast?_filterMap_cons, Option.or_assoc]

theorem config_afterCalls (calls : List PageCall) :
    (resource.afterCalls calls).config =
      (PageCall.lastConfig? calls).getD resource.config := by
  induction calls generalizing resource with
  | nil => rfl
  | cons call calls ih =>
      rw [afterCalls, List.foldl_cons, ← afterCalls, ih, config_afterCall, PageCall.lastConfig?,
        PageCall.lastConfig?, getLast?_filterMap_cons]
      cases (calls.filterMap PageCall.config?).getLast? <;> rfl

end Resource

/-! ## The declared size -/

/-- A page size is never zero. -/
theorem IntegerLiteral.ne_zero_of_pageLimit {written : List Char} {limit : UInt64}
    (read : pageLimit written = .ok limit) : limit ≠ 0 := by
  simp only [pageLimit] at read
  split at read
  · cases read
  · next value _ =>
      split at read
      · cases read
      · split at read
        · cases read
        · next small =>
            split at read
            · cases read
            · next positive =>
                cases read
                intro zero
                have same : value % UInt64.size = 0 := congrArg UInt64.toNat zero
                rw [Nat.mod_eq_of_lt (Nat.not_le.mp small)] at same
                exact positive same

/-- The page size that a member of a declaration's list assigns. -/
def Member.pageLimit? : Member → Option UInt64
  | .setting path (.literal (.number written)) =>
      if path.isName "limit" then (IntegerLiteral.pageLimit written.toList).toOption else none
  | _ => none

namespace DeclaredSettings

variable {settings next : DeclaredSettings}

/-- A member that is read assigns the page size, or leaves it as it is. -/
theorem pageLimit_assign {member : Member} (assigned : settings.assign member = .ok next) :
    next.pageLimit = member.pageLimit?.or settings.pageLimit := by
  unfold assign at assigned
  split at assigned
  · next path literal =>
      split at assigned
      · cases assigned
        rfl
      · next written named =>
          obtain ⟨limit, read, same⟩ := (Success.bind_eq_ok_iff _ _ _).mp assigned
          cases same
          simp [Member.pageLimit?, AttributePath.isName, named, read, Except.toOption]
      · cases assigned
  · cases assigned
  · cases assigned

/-- The page size of settings is the last one that their members assign. -/
theorem pageLimit_foldlM {members : List Member}
    (assigned : members.foldlM assign settings = .ok next) :
    next.pageLimit = (members.filterMap Member.pageLimit?).getLast?.or settings.pageLimit := by
  induction members generalizing settings with
  | nil =>
      cases assigned
      rfl
  | cons member members ih =>
      rw [List.foldlM_cons] at assigned
      obtain ⟨between, here, later⟩ := (Success.bind_eq_ok_iff _ _ _).mp assigned
      rw [ih later, pageLimit_assign here, getLast?_filterMap_cons, Option.or_assoc]

end DeclaredSettings

/-- The page size that attributes for queries declare: the last of those in their lists. -/
def Attribute.declaredLimit? (attributes : List Attribute) : Option UInt64 :=
  match queryMembers attributes with
  | .ok members => (members.filterMap Member.pageLimit?).getLast?
  | .error _ => none

theorem Attribute.declaredLimit?_ne_zero {attributes : List Attribute} {limit : UInt64}
    (declares : declaredLimit? attributes = some limit) : limit ≠ 0 := by
  unfold declaredLimit? at declares
  split at declares
  · next members _ =>
      obtain ⟨member, _, assigns⟩ := List.mem_filterMap.mp (List.mem_of_getLast? declares)
      unfold Member.pageLimit? at assigns
      split at assigns
      · next written =>
          split at assigns
          · have accepted := (Success.toOption_eq_some_iff _ _).mp assigns
            exact IntegerLiteral.ne_zero_of_pageLimit accepted
          · cases assigns
      · cases assigns
  · cases declares

/-- An accepted declaration has the page size that its attributes declare. -/
theorem Declaration.pageLimit_of_model {declaration : Declaration} {declared : DeclaredModel}
    (accepted : declaration.model = .ok declared) :
    declared.pageLimit = Attribute.declaredLimit? declaration.attributes := by
  obtain ⟨_, _, rest⟩ := (Success.bind_eq_ok_iff _ _ _).mp accepted
  obtain ⟨settings, read, rest⟩ := (Success.bind_eq_ok_iff _ _ _).mp rest
  obtain ⟨_, _, rest⟩ := (Success.bind_eq_ok_iff _ _ _).mp rest
  obtain ⟨_, _, same⟩ := (Success.bind_eq_ok_iff _ _ _).mp rest
  cases same
  obtain ⟨members, listed, assigned⟩ := (Success.bind_eq_ok_iff _ _ _).mp read
  rw [Attribute.declaredLimit?, listed]
  exact (DeclaredSettings.pageLimit_foldlM assigned).trans (Option.or_none)

/-! ## The order of the sources -/

/-- The page size when nothing else is said. -/
def usualLimit : UInt64 :=
  ({} : Config).defaultLimit

/-- The page size in the order of its sources: the last one that the host sets, the declared
one, that of the last configuration, the usual one. -/
def pageSize (declared : Option UInt64) (calls : List PageCall) : UInt64 :=
  ((PageCall.lastLimit? calls).or
    (declared.or ((PageCall.lastConfig? calls).map Config.defaultLimit))).getD usualLimit

/-- The size of a resource before any call is the declared one, unless that is the usual
one. -/
theorem DeclaredModel.pageLimit_ofSpec (declared : DeclaredModel) :
    (Resource.ofSpec declared.spec).pageLimit = declared.pageLimit.filter (· ≠ usualLimit) := by
  have set : (Resource.ofSpec declared.spec).pageLimit =
      if declared.pageLimit.getD usualLimit = usualLimit then none
      else some (declared.pageLimit.getD usualLimit) := rfl
  rw [set]
  cases declared.pageLimit with
  | none => rfl
  | some limit =>
      by_cases usual : limit = usualLimit
      · simp [usual, Option.filter_some]
      · simp [usual, Option.filter_some]

/-- After any calls, the page size comes from the sources in their order, where the usual
size does not count as declared. -/
theorem DeclaredModel.defaultLimit_afterCalls (declared : DeclaredModel) (calls : List PageCall) :
    ((Resource.ofSpec declared.spec).afterCalls calls).defaultLimit =
      pageSize (declared.pageLimit.filter (· ≠ usualLimit)) calls := by
  rw [Resource.defaultLimit, Resource.pageLimit_afterCalls, Resource.config_afterCalls,
    pageLimit_ofSpec, pageSize]
  cases PageCall.lastLimit? calls with
  | some limit => rfl
  | none =>
      cases declared.pageLimit.filter (· ≠ usualLimit) with
      | some limit => rfl
      | none => cases PageCall.lastConfig? calls <;> rfl

/-- Leaving a declared usual size out changes the page size only where the host sets none and
the last configuration has another one. -/
theorem pageSize_filter_eq_iff (declared : Option UInt64) (calls : List PageCall) :
    pageSize (declared.filter (· ≠ usualLimit)) calls = pageSize declared calls ↔
      ¬ (declared = some usualLimit ∧ PageCall.lastLimit? calls = none ∧
        ∃ config, PageCall.lastConfig? calls = some config ∧ config.defaultLimit ≠ usualLimit) := by
  unfold pageSize
  cases PageCall.lastLimit? calls with
  | some limit => simp
  | none =>
      cases declared with
      | none => simp
      | some limit =>
          by_cases usual : limit = usualLimit
          · subst usual
            cases PageCall.lastConfig? calls <;> simp [Option.filter_some]
          · simp [usual, Option.filter_some]

/-- The page size of a resource that is made from a declaration, after any calls of the host.
It follows the order of the sources, unless the declaration names the usual size, the host
sets none, and the last configuration has another one; then the configuration wins. -/
theorem Declaration.pageSize_of_model {declaration : Declaration} {declared : DeclaredModel}
    (accepted : declaration.model = .ok declared) (calls : List PageCall) :
    let given := Attribute.declaredLimit? declaration.attributes
    let size := ((Resource.ofSpec declared.spec).afterCalls calls).defaultLimit
    (∀ limit, given = some limit → limit ≠ 0) ∧
      size = pageSize (given.filter (· ≠ usualLimit)) calls ∧
      (size = pageSize given calls ↔
        ¬ (given = some usualLimit ∧ PageCall.lastLimit? calls = none ∧
          ∃ config, PageCall.lastConfig? calls = some config ∧
            config.defaultLimit ≠ usualLimit)) := by
  intro given size
  have declares : declared.pageLimit = given := Declaration.pageLimit_of_model accepted
  have follows : size = pageSize (given.filter (· ≠ usualLimit)) calls := by
    rw [← declares]
    exact declared.defaultLimit_afterCalls calls
  refine ⟨fun limit => Attribute.declaredLimit?_ne_zero, follows, ?_⟩
  rw [follows]
  exact pageSize_filter_eq_iff given calls

/-- Posts that declare a page size. -/
def sizedPosts (limit : String) : Declaration :=
  { attributes :=
      [.list "query"
        [.setting "table" (.text "posts"), .setting "limit" (.source limit)]]
    shape := .named [] }

/-- The declared size of the posts stands against every configuration, and gives way to the
host. -/
theorem Declaration.pageSize_of_model_sizedPosts :
    ∃ declared, (sizedPosts "25").model = .ok declared ∧
      ∀ config : Config, ∀ limit : UInt64,
        ((Resource.ofSpec declared.spec).afterCalls
          [.configure {}, .configure config]).defaultLimit = 25 ∧
        ((Resource.ofSpec declared.spec).afterCalls
          [.paginateBy limit, .configure config]).defaultLimit = limit := by
  have accepted : (sizedPosts "25").model =
      .ok { table := "posts", pageLimit := some 25, columns := {} } := by
    with_unfolding_all rfl
  have given : Attribute.declaredLimit? (sizedPosts "25").attributes = some 25 := by
    with_unfolding_all rfl
  refine ⟨_, accepted, fun config limit => ⟨?_, ?_⟩⟩
  · rw [(Declaration.pageSize_of_model accepted [.configure {}, .configure config]).2.1, given]
    rfl
  · rw [(Declaration.pageSize_of_model accepted [.paginateBy limit, .configure config]).2.1]
    rfl

/-- Posts that declare the usual size get that of a configuration all the same. -/
theorem Declaration.not_pageSize_of_model_sizedPosts :
    ∃ declared, (sizedPosts "15").model = .ok declared ∧
      Attribute.declaredLimit? (sizedPosts "15").attributes = some 15 ∧
      let calls : List PageCall := [.configure { defaultLimit := 50 }]
      pageSize (some 15) calls = 15 ∧
      ((Resource.ofSpec declared.spec).afterCalls calls).defaultLimit = 50 := by
  have accepted : (sizedPosts "15").model =
      .ok { table := "posts", pageLimit := some 15, columns := {} } := by
    with_unfolding_all rfl
  refine ⟨_, accepted, by with_unfolding_all rfl, rfl, rfl⟩

end QueryGate
