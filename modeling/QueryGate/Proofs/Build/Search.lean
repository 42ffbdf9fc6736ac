import QueryGate.Build.Search
import QueryGate.Proofs.Build.Existence

/-!
# Where a search can look

A search looks for its term in the column that a pattern names, if it names one. Whether
it does, and whether the column can be come to, depends on the pattern only: either the
search has a form for the pattern that every term is put into
(`patternCondition_of_canSearch`), or no term can be searched there
(`patternCondition_of_not_canSearch`).
-/

set_option autoImplicit false

namespace QueryGate

/-- A search can go along the relation path, if there is one: it is the name of the
pivot table, or reaches rows. -/
def Context.CanSearch (context : Context) : Option String → Prop
  | none => True
  | some path => path = pivotName ∨ context.Reaches path

/-- The forms of a search in a pattern: none, a condition on a column of the root or the
pivot table, or one on a row along hops. -/
inductive SearchForm (backend : Sql.Backend) : (SearchTerm → Option Sql.Condition) → Prop where
  | nothing : SearchForm backend fun _ => none
  | bare (operand : Sql.Operand) :
      SearchForm backend fun term => some (textCondition backend operand term)
  | along (operand : Sql.Operand) {frame : Sql.Group → Sql.Condition} (hops : HopFrame frame) :
      SearchForm backend fun term => some (frame (.one (textCondition backend operand term)))

variable {context : Context} {pattern : String}

/-- A pattern with a star is searched in no form. -/
theorem patternCondition_of_star (star : '*' ∈ pattern.toList) (term : SearchTerm) :
    (patternCondition context term pattern).result = .ok none := by
  rw [patternCondition, if_pos (List.contains_iff_mem.mpr star)]
  rfl

/-- A pattern without a star is searched in the column that it names. -/
theorem result_patternCondition (plain : '*' ∉ pattern.toList) (term : SearchTerm) :
    (patternCondition context term pattern).result =
      let column := (FieldPath.ofText pattern).field
      match (FieldPath.ofText pattern).relation with
      | none =>
          .ok (some (textCondition context.backend (.column ⟨context.root.table, column⟩) term))
      | some path =>
          if path = pivotName then
            .ok (context.pivot.map fun pivot =>
              textCondition context.backend (.column ⟨pivot.table, column⟩) term)
          else
            (context.pathExists path fun name _ => .ok (.one
              (textCondition context.backend (.column ⟨name, column⟩) term))).map some := by
  rw [patternCondition, if_neg (mt List.contains_iff_mem.mp plain)]
  dsimp only
  cases (FieldPath.ofText pattern).relation with
  | none => rfl
  | some path =>
      dsimp only
      split
      · cases context.pivot <;> rfl
      · rfl

/-- Where a search can go along the path of a pattern, it has a form for every term. -/
theorem patternCondition_of_canSearch
    (served : '*' ∉ pattern.toList → context.CanSearch (FieldPath.ofText pattern).relation) :
    ∃ form, SearchForm context.backend form ∧
      ∀ term, (patternCondition context term pattern).result = .ok (form term) := by
  by_cases star : '*' ∈ pattern.toList
  · exact ⟨_, .nothing, patternCondition_of_star star⟩
  · have canSearch := served star
    have found := @result_patternCondition context pattern star
    let column := (FieldPath.ofText pattern).field
    cases along : (FieldPath.ofText pattern).relation with
    | none =>
        rw [along] at found
        exact ⟨_, .bare (.column ⟨context.root.table, column⟩), found⟩
    | some path =>
        rw [along] at found canSearch
        by_cases pivots : path = pivotName
        · simp only [if_pos pivots] at found
          cases listed : context.pivot with
          | none =>
              rw [listed] at found
              exact ⟨_, .nothing, found⟩
          | some pivot =>
              rw [listed] at found
              exact ⟨_, .bare (.column ⟨pivot.table, column⟩), found⟩
        · obtain ⟨name, related, frame, hops, framed⟩ :=
            Context.pathExists_of_reaches (canSearch.resolve_left pivots)
          simp only [if_neg pivots, framed] at found
          exact ⟨_, .along (.column ⟨name, column⟩) hops, found⟩

/-- Where it cannot, no term can be searched, and it is the resource that is at fault. -/
theorem patternCondition_of_not_canSearch (plain : '*' ∉ pattern.toList)
    (astray : ¬ context.CanSearch (FieldPath.ofText pattern).relation) :
    ∃ cause, ∀ term, (patternCondition context term pattern).result =
      .error (.misconfigured cause) := by
  have found := @result_patternCondition context pattern plain
  cases along : (FieldPath.ofText pattern).relation with
  | none =>
      rw [along] at astray
      exact absurd trivial astray
  | some path =>
      rw [along] at astray found
      obtain ⟨other, unreached⟩ := not_or.mp astray
      obtain ⟨cause, refused⟩ := Context.pathExists_of_not_reaches unreached
      simp only [if_neg other, refused] at found
      exact ⟨cause, found⟩

end QueryGate
