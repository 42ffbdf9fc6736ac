import QueryGate.Event
import QueryGate.Violation

/-!
# When computations succeed

A computation made of parts succeeds with a value exactly when its parts do, and
then the value is made of theirs; it fails with the first failure of a part. There
is one lemma for each way of putting parts together, for results that stop at the
first failure and for checks that collect every violation. What holds of every failure of
the parts holds of every failure of the whole. Two results that are looked at through the
same view stay alike along with what is made of them.
-/

set_option autoImplicit false

namespace QueryGate

variable {ε α β : Type}

/-! ## Results -/

theorem Success.map_eq_ok_iff (function : α → β) (result : Except ε α) (value : β) :
    result.map function = .ok value ↔ ∃ inner, result = .ok inner ∧ function inner = value := by
  cases result <;> simp [Except.map]

theorem Success.bind_eq_ok_iff (result : Except ε α) (next : α → Except ε β) (value : β) :
    (result >>= next) = .ok value ↔ ∃ inner, result = .ok inner ∧ next inner = .ok value := by
  cases result <;> simp [Bind.bind, Except.bind]

theorem Success.map_eq_error_iff (function : α → β) (result : Except ε α) (failure : ε) :
    result.map function = .error failure ↔ result = .error failure := by
  cases result <;> simp [Except.map]

/-- A sequence fails with the first of its failures. -/
theorem Success.bind_eq_error_iff (result : Except ε α) (next : α → Except ε β) (failure : ε) :
    (result >>= next) = .error failure ↔
      result = .error failure ∨ ∃ inner, result = .ok inner ∧ next inner = .error failure := by
  cases result <;> simp [Bind.bind, Except.bind]

theorem Success.toOption_eq_some_iff (result : Except ε α) (value : α) :
    result.toOption = some value ↔ result = .ok value := by
  cases result <;> simp [Except.toOption]

/-- Results that look alike are one failure, or values that look alike. -/
theorem Success.alike_of_map_eq {γ : Type} {first second : Except ε α} {view : α → γ}
    (same : first.map view = second.map view) :
    (∃ failure, first = .error failure ∧ second = .error failure) ∨
      ∃ one other, first = .ok one ∧ second = .ok other ∧ view one = view other := by
  cases first with
  | error failure =>
      exact .inl ⟨failure, rfl, (map_eq_error_iff view second failure).mp same.symm⟩
  | ok one =>
      obtain ⟨other, found, looks⟩ := (map_eq_ok_iff view second (view one)).mp same.symm
      exact .inr ⟨one, other, rfl, found, looks.symm⟩

/-- Results that look alike still do after the same step, if it keeps what is looked
at. -/
theorem Success.map_map_congr {γ δ : Type} {first second : Except ε α} {view : α → γ}
    {step : α → β} {later : β → δ} (same : first.map view = second.map view)
    (keeps : ∀ one other, view one = view other → later (step one) = later (step other)) :
    (first.map step).map later = (second.map step).map later := by
  rcases alike_of_map_eq same with ⟨failure, rfl, rfl⟩ | ⟨one, other, rfl, rfl, looks⟩
  · rfl
  · exact congrArg Except.ok (keeps one other looks)

/-- Results that look alike still do after steps that make what looks alike of what looks
alike. -/
theorem Success.map_bind_congr {γ δ : Type} {first second : Except ε α} {view : α → γ}
    {next following : α → Except ε β} {later : β → δ} (same : first.map view = second.map view)
    (keeps : ∀ one other, view one = view other →
      (next one).map later = (following other).map later) :
    (first >>= next).map later = (second >>= following).map later := by
  rcases alike_of_map_eq same with ⟨failure, rfl, rfl⟩ | ⟨one, other, rfl, rfl, looks⟩
  · rfl
  · exact keeps one other looks

/-- The failure of a result, if it is one. -/
def Success.failure? : Except ε α → Option ε
  | .ok _ => none
  | .error failure => some failure

theorem Success.failure?_map (function : α → β) (result : Except ε α) :
    failure? (result.map function) = failure? result := by
  cases result <;> rfl

/-- A sequence fails with the first of its failures, where the failure of the second part does
not depend on the value of the first. -/
theorem Success.failure?_bind {later : Option ε} (result : Except ε α) (next : α → Except ε β)
    (same : ∀ value, failure? (next value) = later) :
    failure? (result >>= next) = (failure? result).or later := by
  cases result with
  | error failure => rfl
  | ok value => exact same value

theorem Success.failure?_eq_some_iff (result : Except ε α) (failure : ε) :
    failure? result = some failure ↔ result = .error failure := by
  cases result <;> simp [failure?]

theorem Success.failure?_eq_none_iff (result : Except ε α) :
    failure? result = none ↔ ∃ value, result = .ok value := by
  cases result <;> simp [failure?]

/-! ## Results of lists -/

namespace Success

/-- A list of computations succeeds exactly when each of them does. -/
theorem mapM_eq_ok_iff (function : α → Except ε β) (values : List α) (results : List β) :
    values.mapM function = .ok results ↔ values.map function = results.map .ok := by
  induction values generalizing results with
  | nil => cases results <;> simp [pure, Except.pure]
  | cons value values ih =>
      rw [List.mapM_cons, bind_eq_ok_iff, List.map_cons]
      constructor
      · rintro ⟨result, here, there⟩
        obtain ⟨rest, made, same⟩ := (bind_eq_ok_iff _ _ _).mp there
        cases same
        rw [here, (ih rest).mp made, List.map_cons]
      · intro same
        cases results with
        | nil => cases same
        | cons result rest =>
            obtain ⟨here, there⟩ := List.cons.inj same
            exact ⟨result, here, (bind_eq_ok_iff _ _ _).mpr ⟨rest, (ih rest).mpr there, rfl⟩⟩

theorem mem_of_mapM {function : α → Except ε β} {values : List α} {results : List β}
    (made : values.mapM function = .ok results) (result : β) :
    result ∈ results ↔ ∃ value ∈ values, function value = .ok result := by
  have each := (mapM_eq_ok_iff function values results).mp made
  have among : Except.ok result ∈ results.map (Except.ok : β → Except ε β) ↔ result ∈ results := by
    simp
  rw [← among, ← each, List.mem_map]

/-- Steps one after another fail with the first that fails. -/
theorem foldlM_eq_error_iff (step : β → α → Except ε β) (start : β) (values : List α)
    (failure : ε) :
    values.foldlM step start = .error failure ↔
      ∃ before value after between, values = before ++ value :: after ∧
        before.foldlM step start = .ok between ∧ step between value = .error failure := by
  induction values generalizing start with
  | nil => simp [pure, Except.pure]
  | cons first values ih =>
      rw [List.foldlM_cons, bind_eq_error_iff]
      constructor
      · rintro (failed | ⟨next, made, failed⟩)
        · exact ⟨[], first, values, start, rfl, rfl, failed⟩
        · obtain ⟨before, value, after, between, rfl, reached, failed⟩ := (ih next).mp failed
          refine ⟨first :: before, value, after, between, rfl, ?_, failed⟩
          rw [List.foldlM_cons, bind_eq_ok_iff]
          exact ⟨next, made, reached⟩
      · rintro ⟨before, value, after, between, split, reached, failed⟩
        cases before with
        | nil =>
            cases split
            cases reached
            exact .inl failed
        | cons _ before =>
            cases split
            rw [List.foldlM_cons, bind_eq_ok_iff] at reached
            obtain ⟨next, made, reached⟩ := reached
            refine .inr ⟨next, made, (ih next).mpr ?_⟩
            exact ⟨before, value, after, between, rfl, reached, failed⟩

/-- So does a list of computations. -/
theorem mapM_eq_error_iff (function : α → Except ε β) (values : List α) (failure : ε) :
    values.mapM function = .error failure ↔
      ∃ before value after, values = before ++ value :: after ∧
        (∀ earlier ∈ before, ∃ result, function earlier = .ok result) ∧
        function value = .error failure := by
  induction values with
  | nil => simp [pure, Except.pure]
  | cons first values ih =>
      rw [List.mapM_cons, bind_eq_error_iff]
      constructor
      · rintro (failed | ⟨result, made, failed⟩)
        · exact ⟨[], first, values, rfl, List.forall_mem_nil _, failed⟩
        · rcases (bind_eq_error_iff _ _ _).mp failed with later | ⟨_, _, impossible⟩
          · obtain ⟨before, value, after, rfl, each, failed⟩ := ih.mp later
            exact ⟨first :: before, value, after, rfl,
              List.forall_mem_cons.mpr ⟨⟨result, made⟩, each⟩, failed⟩
          · cases impossible
      · rintro ⟨before, value, after, split, each, failed⟩
        cases before with
        | nil =>
            cases split
            exact .inl failed
        | cons _ before =>
            cases split
            obtain ⟨⟨result, made⟩, each⟩ := List.forall_mem_cons.mp each
            refine .inr ⟨result, made, (bind_eq_error_iff _ _ _).mpr (.inl ?_)⟩
            exact ih.mpr ⟨before, value, after, rfl, each, failed⟩

theorem failure?_mapM (function : α → Except ε β) (values : List α) :
    failure? (values.mapM function) = values.findSome? fun value => failure? (function value) := by
  induction values with
  | nil => rfl
  | cons value values ih =>
      have rest (result : β) :
          failure? (values.mapM function >>= fun results => pure (result :: results)) =
            failure? (values.mapM function) := by
        cases values.mapM function <;> rfl
      rw [List.mapM_cons, failure?_bind _ _ rest, ih, List.findSome?_cons]
      cases failure? (function value) <;> rfl

theorem exists_mapM_iff (function : α → Except ε β) (values : List α) :
    (∃ results, values.mapM function = .ok results) ↔
      ∀ value ∈ values, ∃ result, function value = .ok result := by
  constructor
  · rintro ⟨results, made⟩ value member
    have among : function value ∈ results.map Except.ok :=
      (mapM_eq_ok_iff function values results).mp made ▸ List.mem_map_of_mem member
    obtain ⟨result, _, same⟩ := List.mem_map.mp among
    exact ⟨result, same.symm⟩
  · intro each
    cases made : values.mapM function with
    | ok results => exact ⟨results, rfl⟩
    | error failure =>
        obtain ⟨before, value, after, rfl, _, failed⟩ := (mapM_eq_error_iff _ _ _).mp made
        obtain ⟨result, found⟩ := each value (List.mem_append_right before List.mem_cons_self)
        cases found.symm.trans failed

/-- Lists of the same values, in whatever order and number, have the same results, if there is
only one way to fail. -/
theorem map_mapM_congr {function : α → Except ε β} {values others : List α} (only : ε)
    (same : ∀ value, value ∈ values ↔ value ∈ others)
    (single : ∀ value ∈ values, ∀ failure, function value = .error failure → failure = only) :
    (values.mapM function).map (fun results result => result ∈ results) =
      (others.mapM function).map (fun results result => result ∈ results) := by
  have fails {list : List α} {failure : ε} (within : ∀ value ∈ list, value ∈ values)
      (failed : list.mapM function = .error failure) : failure = only := by
    obtain ⟨before, value, after, rfl, _, here⟩ := (mapM_eq_error_iff _ _ _).mp failed
    exact single value (within value (List.mem_append_right before List.mem_cons_self)) _ here
  have both : (∃ results, values.mapM function = .ok results) ↔
      ∃ results, others.mapM function = .ok results := by
    simp only [exists_mapM_iff, same]
  cases here : values.mapM function with
  | error failure =>
      cases there : others.mapM function with
      | error other =>
          rw [fails (fun _ member => member) here,
            fails (fun value member => (same value).mpr member) there]
      | ok results =>
          obtain ⟨_, impossible⟩ := both.mpr ⟨results, there⟩
          cases here.symm.trans impossible
  | ok results =>
      obtain ⟨found, there⟩ := both.mp ⟨results, here⟩
      rw [there]
      refine congrArg Except.ok (funext fun result => propext ?_)
      show result ∈ results ↔ result ∈ found
      rw [mem_of_mapM here, mem_of_mapM there]
      exact exists_congr fun value => and_congr_left fun _ => same value

end Success

/-- Every failure of the result is one of the allowed ones. -/
def Success.FailsOnly (allowed : ε → Prop) (result : Except ε α) : Prop :=
  ∀ failure, result = .error failure → allowed failure

namespace Success.FailsOnly

variable {allowed : ε → Prop}

theorem ok (value : α) : FailsOnly allowed (.ok value) :=
  fun _ impossible => (nomatch impossible)

theorem error {failure : ε} (holds : allowed failure) :
    FailsOnly allowed (.error failure : Except ε α) := by
  intro other same
  cases same
  exact holds

theorem map {result : Except ε α} (only : FailsOnly allowed result) (function : α → β) :
    FailsOnly allowed (result.map function) :=
  fun failure failed => only failure ((map_eq_error_iff _ _ _).mp failed)

theorem bind {result : Except ε α} (only : FailsOnly allowed result) {next : α → Except ε β}
    (later : ∀ value, FailsOnly allowed (next value)) :
    FailsOnly allowed (result >>= next) := by
  intro failure failed
  rcases (bind_eq_error_iff _ _ _).mp failed with first | ⟨value, _, second⟩
  · exact only failure first
  · exact later value failure second

end Success.FailsOnly

namespace Outcome

theorem result_bind_eq_ok_iff (first : Outcome α) (next : α → Outcome β) (value : β) :
    (first >>= next).result = .ok value ↔
      ∃ inner, first.result = .ok inner ∧ (next inner).result = .ok value := by
  rw [result_bind]
  exact Success.bind_eq_ok_iff first.result (fun inner => (next inner).result) value

/-- An event on the way does not count. -/
theorem result_emit_bind (event : Event) (next : Unit → Outcome β) :
    (emit event >>= next).result = (next ()).result := rfl

end Outcome

/-! ## Checks -/

namespace Validated

theorem map_eq_valid_iff (function : α → β) (checked : Validated α) (value : β) :
    checked.map function = .valid value ↔
      ∃ inner, checked = .valid inner ∧ function inner = value := by
  cases checked <;> simp [map]

theorem both_eq_valid_iff (left : Validated α) (right : Validated β) (parts : α × β) :
    left.both right = .valid parts ↔ left = .valid parts.1 ∧ right = .valid parts.2 := by
  obtain ⟨first, second⟩ := parts
  cases left <;> cases right <;> simp [both]

theorem andThen_eq_valid_iff (checked : Validated α) (next : α → Validated β) (value : β) :
    checked.andThen next = .valid value ↔
      ∃ inner, checked = .valid inner ∧ next inner = .valid value := by
  cases checked <;> simp [andThen]

theorem ofOption_eq_valid_iff (found : Option α) (place : Place) (reason : Reason) (value : α) :
    ofOption found place reason = .valid value ↔ found = some value := by
  cases found <;> simp [ofOption, reject]

theorem map_map {γ : Type} (checked : Validated α) (function : α → β) (next : β → γ) :
    (checked.map function).map next = checked.map fun value => next (function value) := by
  cases checked <;> rfl

/-- A check beside a valid part is decided by itself. -/
theorem both_valid (checked : Validated α) (value : β) :
    checked.both (.valid value) = checked.map fun inner => (inner, value) := by
  cases checked <;> simp [both, map]

theorem valid_both (value : α) (checked : Validated β) :
    (Validated.valid value).both checked = checked.map fun inner => (value, inner) := by
  cases checked <;> rfl

theorem map_andThen {γ : Type} (checked : Validated α) (function : α → β)
    (next : β → Validated γ) :
    (checked.map function).andThen next = checked.andThen fun value => next (function value) := by
  cases checked <;> rfl

/-- A next check that never fails only changes the value. -/
theorem andThen_eq_map {checked : Validated α} {next : α → Validated β} {function : α → β}
    (valid : ∀ value, next value = .valid (function value)) :
    checked.andThen next = checked.map function := by
  cases checked with
  | valid value => exact valid value
  | invalid first others => rfl

/-- A list of parts is valid exactly when each of them is. -/
theorem all_eq_valid_iff (parts : List (Validated α)) (values : List α) :
    all parts = .valid values ↔ parts = values.map valid := by
  induction parts generalizing values with
  | nil => cases values <;> simp [all]
  | cons checked rest ih =>
      rw [all, map_eq_valid_iff]
      constructor
      · rintro ⟨⟨first, others⟩, parts, rfl⟩
        obtain ⟨here, there⟩ := (both_eq_valid_iff _ _ _).mp parts
        rw [here, (ih others).mp there]
        rfl
      · intro same
        cases values with
        | nil => cases same
        | cons first others =>
            obtain ⟨here, there⟩ := List.cons.inj same
            exact
              ⟨(first, others), (both_eq_valid_iff _ _ _).mpr ⟨here, (ih others).mpr there⟩, rfl⟩

/-- A check among valid parts is decided by itself. -/
theorem all_around (before : List α) (checked : Validated α) (after : List α) :
    all (before.map valid ++ checked :: after.map valid) =
      checked.map fun value => before ++ value :: after := by
  induction before with
  | nil =>
      rw [List.map_nil, List.nil_append, all, (all_eq_valid_iff _ _).mpr rfl, both_valid, map_map]
      rfl
  | cons first before ih =>
      rw [List.map_cons, List.cons_append, all, ih, valid_both, map_map, map_map]
      rfl

end Validated

end QueryGate
