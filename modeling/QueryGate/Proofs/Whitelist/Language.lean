import QueryGate.Proofs.Model.Pattern

/-!
# The language of a whitelist

Which texts a list of patterns admits, said of the characters of pattern and text alone.
A text fills a pattern when it is the pattern with a dot and a word in place of each gap:
read from the left, `.*` is a gap wherever it comes up, and every other character stands
for itself (`Fills`). The matcher cuts the pattern into pieces first and then tries every
end of a word behind a dot; it accepts the same texts (`fillsGaps_patternPieces_iff`).

So a list admits a text when the wildcard is listed, the text itself is, or a pattern with
a gap that the text fills (`isWhitelisted_language`). Only which patterns are listed
counts, more of them admit more, and texts without a dot need no pattern with gaps to be
looked at.
-/

set_option autoImplicit false

namespace QueryGate

/-! ## Texts that fill a pattern -/

/-- The text is the pattern with a dot and a word of at least one character in place of
each gap, where the leftmost `.*` is a gap first. -/
inductive Fills : List Char → List Char → Prop where
  | nil : Fills [] []
  | gap {pattern word text : List Char} (given : word ≠ [])
      (letters : ∀ character ∈ word, Text.isWord character = true) (rest : Fills pattern text) :
      Fills ('.' :: '*' :: pattern) ('.' :: (word ++ text))
  | literal {character : Char} {pattern text : List Char}
      (apart : ¬ (character = '.' ∧ pattern.head? = some '*')) (rest : Fills pattern text) :
      Fills (character :: pattern) (character :: text)

/-- There is a gap in the pattern. -/
def HasGap (pattern : String) : Prop :=
  ['.', '*'] <:+: pattern.toList

/-! ## Pieces -/

theorem patternPieces_ne_nil (pattern : List Char) : patternPieces pattern ≠ [] := by
  fun_cases patternPieces pattern <;> simp

/-- What is no gap goes to the first piece. -/
theorem patternPieces_literal {character : Char} {pattern : List Char}
    (apart : ¬ (character = '.' ∧ pattern.head? = some '*')) :
    ∃ piece pieces, patternPieces pattern = piece :: pieces ∧
      patternPieces (character :: pattern) = (character :: piece) :: pieces := by
  obtain ⟨piece, pieces, cut⟩ := List.exists_cons_of_ne_nil (patternPieces_ne_nil pattern)
  refine ⟨piece, pieces, cut, ?_⟩
  rw [patternPieces, cut]
  rintro rest rfl rfl
  exact apart ⟨rfl, rfl⟩

/-- There is more than one piece exactly when there is a gap. -/
theorem one_lt_length_patternPieces_iff (pattern : List Char) :
    1 < (patternPieces pattern).length ↔ ['.', '*'] <:+: pattern := by
  induction pattern with
  | nil => simp [patternPieces]
  | cons character pattern ih =>
      by_cases gap : character = '.' ∧ pattern.head? = some '*'
      · obtain ⟨rfl, starred⟩ := gap
        obtain ⟨rest, rfl⟩ := List.head?_eq_some_iff.mp starred
        have more := List.length_pos_iff.mpr (patternPieces_ne_nil rest)
        refine iff_of_true ?_ ⟨[], rest, rfl⟩
        rw [patternPieces, List.length_cons]
        omega
      · obtain ⟨piece, pieces, cut, cut'⟩ := patternPieces_literal gap
        rw [cut', List.length_cons, ← List.length_cons (a := piece), ← cut, ih,
          List.infix_cons_iff]
        refine (or_iff_right fun starts => gap ?_).symm
        obtain ⟨rest, begun⟩ := starts
        obtain ⟨first, others⟩ := List.cons.inj begun
        exact ⟨first.symm, by rw [← others]; rfl⟩

/-! ## Matching pieces -/

/-- What may remain after a word is what follows some word at the front. -/
theorem mem_afterWord_iff (text remainder : List Char) :
    remainder ∈ afterWord text ↔
      ∃ word, word ≠ [] ∧ (∀ character ∈ word, Text.isWord character = true) ∧
        text = word ++ remainder := by
  induction text with
  | nil =>
      refine iff_of_false List.not_mem_nil ?_
      rintro ⟨word, given, _, nothing⟩
      exact given (List.append_eq_nil_iff.mp nothing.symm).1
  | cons first rest ih =>
      rw [afterWord]
      split
      · next letter =>
          rw [List.mem_cons, ih]
          constructor
          · rintro (rfl | ⟨word, _, letters, rfl⟩)
            · exact ⟨[first], List.cons_ne_nil _ _, List.forall_mem_singleton.mpr letter, rfl⟩
            · exact ⟨first :: word, List.cons_ne_nil _ _,
                List.forall_mem_cons.mpr ⟨letter, letters⟩, rfl⟩
          · rintro ⟨word, given, letters, cut⟩
            obtain ⟨head, word, rfl⟩ := List.exists_cons_of_ne_nil given
            obtain ⟨rfl, rfl⟩ := List.cons.inj cut
            by_cases more : word = []
            · exact .inl (by rw [more]; rfl)
            · exact .inr ⟨word, more, (List.forall_mem_cons.mp letters).2, rfl⟩
      · next other =>
          refine iff_of_false List.not_mem_nil ?_
          rintro ⟨word, given, letters, cut⟩
          obtain ⟨head, word, rfl⟩ := List.exists_cons_of_ne_nil given
          obtain ⟨rfl, _⟩ := List.cons.inj cut
          exact other (letters first List.mem_cons_self)

/-- A character at the front of the first piece is asked for at the front of the text. -/
theorem fillsGaps_cons_iff (character : Char) (piece : List Char) (pieces : List (List Char))
    (text : List Char) :
    fillsGaps ((character :: piece) :: pieces) text = true ↔
      ∃ rest, text = character :: rest ∧ fillsGaps (piece :: pieces) rest = true := by
  cases pieces with
  | nil => simp [fillsGaps]
  | cons next pieces =>
      cases text with
      | nil => simp [fillsGaps, Text.afterStart]
      | cons first text =>
          by_cases same : character = first
          · simp [fillsGaps, Text.afterStart, same]
          · simp [fillsGaps, Text.afterStart, same, Ne.symm same]

/-- After an empty first piece comes a gap: a dot, and a word of which some end has to
suit the other pieces. -/
theorem fillsGaps_gap_iff (piece : List Char) (pieces : List (List Char)) (text : List Char) :
    fillsGaps ([] :: piece :: pieces) text = true ↔
      ∃ word rest, text = '.' :: (word ++ rest) ∧ word ≠ [] ∧
        (∀ character ∈ word, Text.isWord character = true) ∧
        fillsGaps (piece :: pieces) rest = true := by
  rw [fillsGaps, Text.afterStart]
  · constructor
    · intro fills
      split at fills
      · next behind begun =>
          cases begun
          obtain ⟨rest, among, suits⟩ := List.any_eq_true.mp fills
          obtain ⟨word, given, letters, rfl⟩ := (mem_afterWord_iff _ _).mp among
          exact ⟨word, rest, rfl, given, letters, suits⟩
      · cases fills
    · rintro ⟨word, rest, rfl, given, letters, fills⟩
      exact List.any_eq_true.mpr
        ⟨rest, (mem_afterWord_iff _ _).mpr ⟨word, given, letters, rfl⟩, fills⟩
  · exact List.cons_ne_nil _ _

/-- The pieces of a pattern are matched by the texts that fill the pattern, wherever the
words in its gaps end. -/
theorem fillsGaps_patternPieces_iff (pattern text : List Char) :
    fillsGaps (patternPieces pattern) text = true ↔ Fills pattern text := by
  induction pattern using patternPieces.induct generalizing text with
  | case1 =>
      rw [patternPieces, fillsGaps, beq_iff_eq]
      constructor
      · rintro rfl
        exact .nil
      · rintro ⟨⟩
        rfl
  | case2 pattern ih =>
      obtain ⟨piece, pieces, cut⟩ := List.exists_cons_of_ne_nil (patternPieces_ne_nil pattern)
      rw [patternPieces, cut, fillsGaps_gap_iff, ← cut]
      simp only [ih]
      constructor
      · rintro ⟨word, rest, rfl, given, letters, fills⟩
        exact .gap given letters fills
      · intro fills
        cases fills with
        | gap given letters rest => exact ⟨_, _, rfl, given, letters, rest⟩
        | literal apart _ => exact absurd ⟨rfl, rfl⟩ apart
  | case3 _ pattern _ nothing _ => exact absurd nothing (patternPieces_ne_nil pattern)
  | case4 character pattern plain piece pieces cut ih =>
      have apart : ¬ (character = '.' ∧ pattern.head? = some '*') := by
        rintro ⟨dot, starred⟩
        obtain ⟨rest, gap⟩ := List.head?_eq_some_iff.mp starred
        exact plain rest dot gap
      rw [patternPieces, cut]
      · dsimp only
        rw [fillsGaps_cons_iff, ← cut]
        simp only [ih]
        constructor
        · rintro ⟨rest, rfl, fills⟩
          exact .literal apart fills
        · intro fills
          cases fills with
          | gap _ _ _ => exact absurd ⟨rfl, rfl⟩ apart
          | literal _ rest => exact ⟨_, rfl, rest⟩
      · exact plain

/-- A pattern with gaps admits the texts that fill it. -/
theorem admitsByGaps_iff (pattern requested : String) :
    admitsByGaps pattern requested = true ↔
      HasGap pattern ∧ Fills pattern.toList requested.toList := by
  rw [admitsByGaps, Bool.and_eq_true, decide_eq_true_iff, one_lt_length_patternPieces_iff,
    fillsGaps_patternPieces_iff, HasGap]

/-! ## Lists of patterns -/

/-- A text that fills a pattern with a gap has a dot. -/
theorem Fills.dotted {pattern text : List Char} (fills : Fills pattern text)
    (gap : ['.', '*'] <:+: pattern) : '.' ∈ text := by
  induction fills with
  | nil => exact absurd (List.eq_nil_of_infix_nil gap) (List.cons_ne_nil _ _)
  | gap _ _ _ _ => exact List.mem_cons_self
  | @literal character pattern text apart _ ih =>
      rcases List.infix_cons_iff.mp gap with ⟨rest, begun⟩ | later
      · obtain ⟨first, others⟩ := List.cons.inj begun
        exact absurd ⟨first.symm, by rw [← others]; rfl⟩ apart
      · exact List.mem_cons_of_mem _ (ih later)

/-- The early refusal of texts without a dot changes no answer. -/
theorem isWhitelisted_eq (patterns : List String) (requested : String) :
    isWhitelisted patterns requested =
      (patterns.contains wildcard || patterns.contains requested ||
        patterns.any fun pattern => admitsByGaps pattern requested) := by
  rw [isWhitelisted]
  by_cases dotted : '.' ∈ requested.toList
  · rw [List.contains_iff_mem.mpr dotted, Bool.true_and]
  · have unfilled : (patterns.any fun pattern => admitsByGaps pattern requested) = false := by
      rw [List.any_eq_false]
      intro pattern _ admits
      obtain ⟨gap, fills⟩ := (admitsByGaps_iff pattern requested).mp admits
      exact dotted (fills.dotted gap)
    rw [unfilled, Bool.and_false]

/-- A list admits a text that is listed, everything where the wildcard is listed, and what
fills a listed pattern with a gap. -/
theorem isWhitelisted_iff (patterns : List String) (requested : String) :
    isWhitelisted patterns requested = true ↔
      wildcard ∈ patterns ∨ requested ∈ patterns ∨
        ∃ pattern ∈ patterns, HasGap pattern ∧ Fills pattern.toList requested.toList := by
  simp only [isWhitelisted_eq, Bool.or_eq_true, List.contains_iff_mem, List.any_eq_true,
    admitsByGaps_iff, or_assoc]

/-- More patterns admit more names. -/
theorem isWhitelisted_mono {patterns others : List String} (wider : patterns ⊆ others)
    {requested : String} (admitted : isWhitelisted patterns requested = true) :
    isWhitelisted others requested = true := by
  rw [isWhitelisted_iff] at admitted ⊢
  rcases admitted with everything | itself | ⟨pattern, member, fills⟩
  · exact .inl (wider everything)
  · exact .inr (.inl (wider itself))
  · exact .inr (.inr ⟨pattern, wider member, fills⟩)

/-- A list of patterns admits a text exactly when the wildcard is listed, the text itself
is, or a pattern with a gap that the text fills. Texts without a dot are refused early
without a change of the answer. Only which patterns are listed counts, and adding some
takes nothing away. A pattern for everything below a path admits, beside its own spelling,
only fields whose relation path is that path. -/
theorem isWhitelisted_language (patterns : List String) (requested : String) :
    (isWhitelisted patterns requested = true ↔
      wildcard ∈ patterns ∨ requested ∈ patterns ∨
        ∃ pattern ∈ patterns, HasGap pattern ∧ Fills pattern.toList requested.toList) ∧
    isWhitelisted patterns requested =
      (patterns.contains wildcard || patterns.contains requested ||
        patterns.any fun pattern => admitsByGaps pattern requested) ∧
    (∀ others, patterns ⊆ others →
      isWhitelisted patterns requested = true → isWhitelisted others requested = true) ∧
    (∀ others, (∀ pattern, pattern ∈ others ↔ pattern ∈ patterns) →
      isWhitelisted others requested = isWhitelisted patterns requested) ∧
    ∀ path : String, '*' ∉ path.toList → isWhitelisted [path ++ ".*"] requested = true →
      requested = path ++ ".*" ∨ (FieldPath.ofText requested).relation = some path := by
  refine ⟨isWhitelisted_iff patterns requested, isWhitelisted_eq patterns requested,
    fun _ wider => isWhitelisted_mono wider, fun others same => ?_, fun path plain admitted => ?_⟩
  · rw [Bool.eq_iff_iff]
    exact ⟨isWhitelisted_mono fun pattern => (same pattern).mp,
      isWhitelisted_mono fun pattern => (same pattern).mpr⟩
  · have names : NamesPath (path ++ ".*") (some path) := .below plain
    rw [isWhitelisted_eq, Bool.or_eq_true, Bool.or_eq_true] at admitted
    rcases admitted with (everything | itself) | filled
    · have same := List.mem_singleton.mp (List.contains_iff_mem.mp everything)
      exact absurd same names.wildcard_ne
    · exact .inl (List.mem_singleton.mp (List.contains_iff_mem.mp itself))
    · obtain ⟨pattern, among, admits⟩ := List.any_eq_true.mp filled
      rw [List.mem_singleton.mp among] at admits
      exact .inr (names.relation_of_admitsByGaps admits)

/-- Two gaps and a literal behind them: `posts.*.*x` admits `posts.a.bxx`, where the second
word has to leave the last `x` to the pattern, and nothing with one word less. -/
example : isWhitelisted ["posts.*.*x"] "posts.a.bxx" = true ∧
    isWhitelisted ["posts.*.*x"] "posts.ax" = false := by decide

end QueryGate
