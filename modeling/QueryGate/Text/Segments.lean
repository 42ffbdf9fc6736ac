/-!
# Cutting texts at separators

Dotted names and wildcard patterns are cut into segments. Everything here works
on lists of characters, where the cut pieces rebuild the text by concatenation;
the functions on `String` are the same functions at the surface.
-/

set_option autoImplicit false

namespace QueryGate.Text

/-- The segments between the separators. A text without separators is one
segment, so the result is never empty. -/
def segments (separator : Char) : List Char → List (List Char)
  | [] => [[]]
  | character :: rest =>
      if character = separator then [] :: segments separator rest
      else
        match segments separator rest with
        | [] => [[character]]
        | segment :: others => (character :: segment) :: others

theorem segments_ne_nil (separator : Char) (characters : List Char) :
    segments separator characters ≠ [] := by
  cases characters with
  | nil => simp [segments]
  | cons character rest =>
    simp only [segments]
    split
    · simp
    · split <;> simp

/-- The segments and the separators between them rebuild the text. -/
theorem eq_of_segments (separator : Char) (characters first : List Char) (others : List (List Char))
    (cut : segments separator characters = first :: others) :
    characters = first ++ others.flatMap (separator :: ·) := by
  induction characters generalizing first others with
  | nil =>
    cases cut
    rfl
  | cons character rest ih =>
    simp only [segments] at cut
    cases found : segments separator rest with
    | nil => exact absurd found (segments_ne_nil separator rest)
    | cons segment segments =>
      have rebuilt := ih segment segments found
      rw [found] at cut
      by_cases same : character = separator
      · simp only [same, if_true] at cut
        cases cut
        rw [same, rebuilt]
        rfl
      · simp only [same, if_false] at cut
        cases cut
        rw [rebuilt]
        rfl

/-- The parts before and after the last separator, when there is one. -/
def splitAtLast (separator : Char) : List Char → Option (List Char × List Char)
  | [] => none
  | character :: rest =>
      match splitAtLast separator rest with
      | some (before, after) => some (character :: before, after)
      | none => if character = separator then some ([], rest) else none

/-- The two parts and the separator between them rebuild the text. -/
theorem eq_of_splitAtLast (separator : Char) (characters before after : List Char)
    (split : splitAtLast separator characters = some (before, after)) :
    characters = before ++ separator :: after := by
  induction characters generalizing before with
  | nil => simp [splitAtLast] at split
  | cons character rest ih =>
    simp only [splitAtLast] at split
    cases found : splitAtLast separator rest with
    | none =>
      rw [found] at split
      by_cases same : character = separator
      · simp only [same, if_true] at split
        cases split
        simp [same]
      · simp [same] at split
    | some parts =>
      obtain ⟨earlier, later⟩ := parts
      rw [found] at split
      cases split
      simp [ih earlier found]

/-- There is no cut exactly when the separator does not occur. -/
theorem splitAtLast_eq_none_iff (separator : Char) (characters : List Char) :
    splitAtLast separator characters = none ↔ separator ∉ characters := by
  induction characters with
  | nil => simp [splitAtLast]
  | cons character rest ih =>
    simp only [splitAtLast]
    cases found : splitAtLast separator rest with
    | none =>
      have absent := ih.mp found
      by_cases same : character = separator
      · simp [same]
      · simp [same, absent, Ne.symm same]
    | some parts =>
      have present : separator ∈ rest :=
        Classical.byContradiction fun absent => by simp [ih.mpr absent] at found
      simp [present]

/-- There is no separator after the last one. -/
theorem not_mem_of_splitAtLast (separator : Char) (characters before after : List Char)
    (split : splitAtLast separator characters = some (before, after)) : separator ∉ after := by
  induction characters generalizing before with
  | nil => cases split
  | cons character rest ih =>
    simp only [splitAtLast] at split
    cases found : splitAtLast separator rest with
    | none =>
      rw [found] at split
      by_cases same : character = separator
      · simp only [same, if_true] at split
        cases split
        exact (splitAtLast_eq_none_iff separator _).mp found
      · simp [same] at split
    | some parts =>
      obtain ⟨earlier, later⟩ := parts
      rw [found] at split
      cases split
      exact ih earlier found

/-- What follows `start` in a text that begins with it. -/
def afterStart : List Char → List Char → Option (List Char)
  | [], text => some text
  | _ :: _, [] => none
  | expected :: start, character :: text =>
      if expected = character then afterStart start text else none

theorem afterStart_eq_some_iff (start text rest : List Char) :
    afterStart start text = some rest ↔ text = start ++ rest := by
  induction start generalizing text with
  | nil => simp [afterStart]
  | cons expected start ih =>
    cases text with
    | nil => simp [afterStart]
    | cons character text =>
      by_cases same : expected = character
      · simp [afterStart, same, ih]
      · simp [afterStart, same, Ne.symm same]

/-- Whether `part` occurs in the text as a contiguous run. -/
def occursIn (part : List Char) : List Char → Bool
  | [] => part.isEmpty
  | character :: rest => (afterStart part (character :: rest)).isSome || occursIn part rest

/-- Every occurrence of one character written as the given characters. -/
def substitute (character : Char) (replacement : List Char) (characters : List Char) : List Char :=
  characters.flatMap fun other => if other = character then replacement else [other]

end QueryGate.Text
