import QueryGate.Model.Path
import QueryGate.Whitelist

/-!
# The relation paths of whitelist patterns

A pattern without a gap admits itself only, and the pattern `path.*` what is one word
below the path. So every text that patterns of these two kinds admit goes along a
relation path that one of the patterns names (`relation_of_isWhitelisted`).
-/

set_option autoImplicit false

namespace QueryGate

/-! ## The last dot -/

/-- The last separator of a text is the one after which there are no more. -/
theorem Text.splitAtLast_append (separator : Char) (before : List Char) {after : List Char}
    (last : separator ∉ after) :
    splitAtLast separator (before ++ separator :: after) = some (before, after) := by
  induction before with
  | nil =>
      rw [List.nil_append, splitAtLast, (splitAtLast_eq_none_iff separator after).mpr last]
      exact if_pos rfl
  | cons character before ih => rw [List.cons_append, splitAtLast, ih]

/-- What stands before the last dot is the relation path. -/
theorem FieldPath.relation_ofText {text path : String} {word : List Char}
    (written : text.toList = path.toList ++ '.' :: word) (last : '.' ∉ word) :
    (FieldPath.ofText text).relation = some path := by
  rw [ofText, written, Text.splitAtLast_append '.' path.toList last]
  exact congrArg some String.ofList_toList

/-! ## Pieces -/

/-- Characters that are no stars go to the first piece. -/
theorem patternPieces_append {before after piece : List Char} {pieces : List (List Char)}
    (plain : '*' ∉ before) (apart : after.head? ≠ some '*')
    (cut : patternPieces after = piece :: pieces) :
    patternPieces (before ++ after) = (before ++ piece) :: pieces := by
  induction before with
  | nil => exact cut
  | cons character before ih =>
      have later : '*' ∉ before := fun member => plain (List.mem_cons_of_mem _ member)
      rw [List.cons_append, patternPieces, ih later]
      · rfl
      · intro rest _ gap
        cases before with
        | nil =>
            rw [List.nil_append] at gap
            exact apart (by rw [gap]; rfl)
        | cons other before =>
            rw [(List.cons.inj gap).1] at later
            exact later List.mem_cons_self

/-- Without a star there is no gap. -/
theorem patternPieces_of_plain {characters : List Char} (plain : '*' ∉ characters) :
    patternPieces characters = [characters] := by
  have cut : patternPieces (characters ++ []) = [characters ++ []] :=
    patternPieces_append plain (nomatch ·) rfl
  rwa [List.append_nil] at cut

/-- What a gap leaves nothing of is a word. -/
theorem isWord_of_nil_mem_afterWord {text : List Char} (filled : [] ∈ afterWord text) :
    ∀ character ∈ text, Text.isWord character = true := by
  induction text with
  | nil => exact fun _ impossible => absurd impossible List.not_mem_nil
  | cons first rest ih =>
      rw [afterWord] at filled
      split at filled
      · next word =>
          rcases List.mem_cons.mp filled with empty | later
          · rw [← empty]
            exact List.forall_mem_singleton.mpr word
          · exact List.forall_mem_cons.mpr ⟨word, ih later⟩
      · exact absurd filled List.not_mem_nil

/-- A text that fills the gap behind a path is the path, a dot and a word. -/
theorem eq_of_fillsGaps_below {path text : List Char} (fills : fillsGaps [path, []] text = true) :
    ∃ word, text = path ++ '.' :: word ∧ ∀ character ∈ word, Text.isWord character = true := by
  rw [fillsGaps] at fills
  · split at fills
    · next word begun =>
        obtain ⟨remainder, among, ended⟩ := List.any_eq_true.mp fills
        have nothing : remainder = [] := beq_iff_eq.mp ended
        exact ⟨word, (Text.afterStart_eq_some_iff _ _ _).mp begun,
          isWord_of_nil_mem_afterWord (nothing ▸ among)⟩
    · cases fills
  · exact fun impossible => (nomatch impossible)

/-! ## What patterns admit -/

/-- The relation path that a pattern names: what stands before its last dot, or before
the gap of a pattern for everything below a path. -/
inductive NamesPath : String → Option String → Prop where
  | exact {pattern : String} (plain : '*' ∉ pattern.toList) :
      NamesPath pattern (FieldPath.ofText pattern).relation
  | below {path : String} (plain : '*' ∉ path.toList) : NamesPath (path ++ ".*") (some path)

/-- A pattern without a star has no gap to fill. -/
theorem admitsByGaps_of_plain {pattern : String} (plain : '*' ∉ pattern.toList) (name : String) :
    admitsByGaps pattern name = false := by
  rw [admitsByGaps, patternPieces_of_plain plain]
  rfl

theorem wildcard_ne_of_plain {pattern : String} (plain : '*' ∉ pattern.toList) :
    wildcard ≠ pattern := by
  rintro rfl
  exact plain List.mem_cons_self

namespace NamesPath

variable {pattern name : String} {relation : Option String}

/-- Such a pattern is not the one that admits everything. -/
theorem wildcard_ne (names : NamesPath pattern relation) : wildcard ≠ pattern := by
  cases names with
  | exact plain => exact wildcard_ne_of_plain plain
  | @below path _ =>
      intro same
      have lengths := congrArg (fun text : String => text.toList.length) same
      simp [wildcard] at lengths

/-- The pattern itself goes along the path that it names. -/
theorem relation_self (names : NamesPath pattern relation) :
    (FieldPath.ofText pattern).relation = relation := by
  cases names with
  | exact _ => rfl
  | @below path _ =>
      exact FieldPath.relation_ofText String.toList_append (by decide)

/-- So does everything that fills its gap. -/
theorem relation_of_admitsByGaps (names : NamesPath pattern relation)
    (admits : admitsByGaps pattern name = true) :
    (FieldPath.ofText name).relation = relation := by
  cases names with
  | exact plain =>
      rw [admitsByGaps_of_plain plain] at admits
      cases admits
  | @below path plain =>
      have cut : patternPieces (path ++ ".*").toList = [path.toList, []] := by
        have apart : ".*".toList.head? ≠ some '*' := by decide
        have pieces : patternPieces ".*".toList = [[], []] := rfl
        rw [String.toList_append, patternPieces_append plain apart pieces, List.append_nil]
      rw [admitsByGaps, cut] at admits
      obtain ⟨word, written, letters⟩ := eq_of_fillsGaps_below (Bool.and_eq_true_iff.mp admits).2
      refine FieldPath.relation_ofText written fun dot => ?_
      have dotted : Text.isWord '.' = true := letters '.' dot
      exact absurd dotted (by decide)

end NamesPath

variable {patterns : List String} {name : String}

/-- Whatever patterns admit goes along a relation path that one of them names. -/
theorem relation_of_isWhitelisted {served : Option String → Prop}
    (named : ∀ pattern ∈ patterns, ∃ relation, NamesPath pattern relation ∧ served relation)
    (admitted : isWhitelisted patterns name = true) : served (FieldPath.ofText name).relation := by
  rw [isWhitelisted, Bool.or_eq_true, Bool.or_eq_true, Bool.and_eq_true] at admitted
  rcases admitted with (everything | itself) | ⟨_, filled⟩
  · obtain ⟨_, names, _⟩ := named wildcard (List.contains_iff_mem.mp everything)
    exact absurd rfl names.wildcard_ne
  · obtain ⟨_, names, serves⟩ := named name (List.contains_iff_mem.mp itself)
    exact names.relation_self ▸ serves
  · obtain ⟨pattern, among, admits⟩ := List.any_eq_true.mp filled
    obtain ⟨_, names, serves⟩ := named pattern among
    exact names.relation_of_admitsByGaps admits ▸ serves

/-- Patterns without a star admit themselves only. -/
theorem mem_of_isWhitelisted (plain : ∀ pattern ∈ patterns, '*' ∉ pattern.toList)
    (admitted : isWhitelisted patterns name = true) : name ∈ patterns := by
  rw [isWhitelisted, Bool.or_eq_true, Bool.or_eq_true, Bool.and_eq_true] at admitted
  rcases admitted with (everything | itself) | ⟨_, filled⟩
  · have among := List.contains_iff_mem.mp everything
    exact absurd rfl (wildcard_ne_of_plain (plain wildcard among))
  · exact List.contains_iff_mem.mp itself
  · obtain ⟨pattern, among, admits⟩ := List.any_eq_true.mp filled
    rw [admitsByGaps_of_plain (plain pattern among)] at admits
    cases admits

end QueryGate
