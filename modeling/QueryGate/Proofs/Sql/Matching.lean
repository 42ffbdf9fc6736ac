import Mathlib.Data.List.Infix
import QueryGate.Proofs.Text.Bytes
import QueryGate.Sql.Basic
import QueryGate.Text.Casing
import QueryGate.Text.Segments

/-!
# What conditions on texts ask

The meaning of a pattern match, of the place of a text in another one, and of the
conditions that are made of them, in a row whose columns hold texts.

A pattern is read letter by letter. Three letters are marks: one for any run of letters,
one for any single letter, and one that takes the meaning from the letter after it. The
letters are the characters of a text, or its bytes where the text is compared by bytes.
A part whose marks are escaped, between two marks for any run, is matched by the texts
in which the part occurs (`matchesPattern_contains_iff`).
-/

set_option autoImplicit false

namespace QueryGate.Sql

/-! ## Patterns -/

/-- The letters with a meaning of their own in patterns. -/
structure Marks (α : Type) where
  /-- Stands for any run of letters, also for none. -/
  run : α
  /-- Stands for any one letter. -/
  single : α
  /-- Makes the letter after it stand for itself. -/
  escape : α
  apart : escape ≠ run

/-- The marks of a pattern of characters. -/
def Marks.ofText : Marks Char := ⟨'%', '_', '\x5C', by decide⟩

/-- The marks of a pattern of bytes. -/
def Marks.ofBytes : Marks UInt8 := ⟨0x25, 0x5F, 0x5C, by decide⟩

section Patterns

variable {α : Type} [DecidableEq α] (marks : Marks α)

/-- Whether letters match a pattern. A mark at the end of a pattern that would escape the
next letter matches nothing. -/
def matchesPattern : List α → List α → Bool
  | [], letters => letters.isEmpty
  | mark :: pattern, letters =>
      if mark = marks.run then letters.tails.any fun rest => matchesPattern pattern rest
      else if mark = marks.escape then
        match pattern, letters with
        | escaped :: pattern, letter :: rest => escaped = letter && matchesPattern pattern rest
        | _, _ => false
      else
        match letters with
        | [] => false
        | letter :: rest => (mark = marks.single || mark = letter) && matchesPattern pattern rest

/-- Letters with every mark among them escaped. -/
def escapeMarks (letters : List α) : List α :=
  letters.flatMap fun letter =>
    if letter = marks.escape ∨ letter = marks.run ∨ letter = marks.single then
      [marks.escape, letter]
    else [letter]

/-- The mark for a run leaves any end of the letters to the rest of the pattern. -/
theorem matchesPattern_run_iff (pattern letters : List α) :
    matchesPattern marks (marks.run :: pattern) letters = true ↔
      ∃ rest, rest <:+ letters ∧ matchesPattern marks pattern rest = true := by
  rw [matchesPattern.eq_def]
  dsimp only
  rw [if_pos rfl, List.any_eq_true]
  simp only [List.mem_tails]

theorem letter_and_iff (fits : List α → Bool) (letter other : α) (letters : List α) :
    (decide (letter = other) && fits letters) = true ↔
      ∃ rest, other :: letters = letter :: rest ∧ fits rest = true := by
  rw [Bool.and_eq_true, decide_eq_true_iff]
  constructor
  · rintro ⟨rfl, suits⟩
    exact ⟨letters, rfl, suits⟩
  · rintro ⟨_, same, suits⟩
    cases same
    exact ⟨rfl, suits⟩

/-- An escaped letter is matched by itself only. -/
theorem matchesPattern_escaped_iff (letter : α) (pattern letters : List α) :
    matchesPattern marks (marks.escape :: letter :: pattern) letters = true ↔
      ∃ rest, letters = letter :: rest ∧ matchesPattern marks pattern rest = true := by
  rw [matchesPattern.eq_def]
  dsimp only
  rw [if_neg marks.apart, if_pos rfl]
  cases letters with
  | nil => simp
  | cons other rest => exact letter_and_iff (matchesPattern marks pattern) letter other rest

/-- So is a letter that is no mark. -/
theorem matchesPattern_letter_iff {letter : α}
    (plain : ¬ (letter = marks.escape ∨ letter = marks.run ∨ letter = marks.single))
    (pattern letters : List α) :
    matchesPattern marks (letter :: pattern) letters = true ↔
      ∃ rest, letters = letter :: rest ∧ matchesPattern marks pattern rest = true := by
  simp only [not_or] at plain
  rw [matchesPattern.eq_def]
  dsimp only
  rw [if_neg plain.2.1, if_neg plain.1]
  cases letters with
  | nil => simp
  | cons other rest =>
      simp only [decide_eq_false plain.2.2, Bool.false_or]
      exact letter_and_iff (matchesPattern marks pattern) letter other rest

/-- Escaped letters are matched by themselves, and what follows them by the rest of the
pattern. -/
theorem matchesPattern_escapeMarks_iff (part pattern letters : List α) :
    matchesPattern marks (escapeMarks marks part ++ pattern) letters = true ↔
      ∃ rest, letters = part ++ rest ∧ matchesPattern marks pattern rest = true := by
  induction part generalizing letters with
  | nil => simp [escapeMarks]
  | cons letter part ih =>
      have taken : matchesPattern marks (escapeMarks marks (letter :: part) ++ pattern) letters =
            true ↔
          ∃ rest, letters = letter :: rest ∧
            matchesPattern marks (escapeMarks marks part ++ pattern) rest = true := by
        rw [escapeMarks, List.flatMap_cons, ← escapeMarks]
        split
        · exact matchesPattern_escaped_iff marks letter _ letters
        · next plain => exact matchesPattern_letter_iff marks plain _ letters
      rw [taken]
      simp only [ih]
      constructor
      · rintro ⟨_, rfl, rest, rfl, fits⟩
        exact ⟨rest, rfl, fits⟩
      · rintro ⟨rest, rfl, fits⟩
        exact ⟨part ++ rest, rfl, rest, rfl, fits⟩

/-- An escaped part between two marks for runs is matched by what the part occurs in. -/
theorem matchesPattern_contains_iff (part letters : List α) :
    matchesPattern marks (marks.run :: escapeMarks marks part ++ [marks.run]) letters = true ↔
      part <:+: letters := by
  have anything (rest : List α) : matchesPattern marks [marks.run] rest = true :=
    (matchesPattern_run_iff marks [] rest).mpr ⟨[], List.nil_suffix, rfl⟩
  rw [List.cons_append, matchesPattern_run_iff]
  simp only [matchesPattern_escapeMarks_iff, anything, and_true]
  constructor
  · rintro ⟨_, ⟨before, rfl⟩, after, rfl⟩
    exact ⟨before, after, List.append_assoc before part after⟩
  · rintro ⟨before, after, rfl⟩
    exact ⟨part ++ after, ⟨before, (List.append_assoc before part after).symm⟩, after, rfl⟩

end Patterns

/-! ## Bytes of patterns -/

/-- The bytes of a character are escaped as the character is. -/
theorem escapeMarks_utf8EncodeChar (character : Char) :
    escapeMarks Marks.ofBytes (String.utf8EncodeChar character) =
      Text.bytes (escapeMarks Marks.ofText [character]) := by
  by_cases marked : character = '\x5C' ∨ character = '%' ∨ character = '_'
  · rcases marked with rfl | rfl | rfl <;> decide
  · have plain : ∀ byte ∈ String.utf8EncodeChar character,
        ¬ (byte = (0x5C : UInt8) ∨ byte = (0x25 : UInt8) ∨ byte = (0x5F : UInt8)) := by
      intro byte member mark
      have single : byte.toNat < 128 := by
        rcases mark with rfl | rfl | rfl <;> decide
      have same := (Text.toNat_eq_of_mem_utf8EncodeChar member single).1
      refine marked ?_
      rcases mark with rfl | rfl | rfl
      · exact .inl (Char.toNat_inj.mp same)
      · exact .inr (.inl (Char.toNat_inj.mp same))
      · exact .inr (.inr (Char.toNat_inj.mp same))
    have unmarked : escapeMarks Marks.ofText [character] = [character] := by
      exact (List.flatMap_singleton _ _).trans (if_neg marked)
    rw [unmarked, Text.bytes_cons, Text.bytes_nil, List.append_nil]
    exact (List.flatMap_congr fun byte member => if_neg (plain byte member)).trans
      (List.flatMap_singleton' _)

/-- The bytes of a text are escaped as its characters are. -/
theorem escapeMarks_bytes (text : List Char) :
    escapeMarks Marks.ofBytes (Text.bytes text) = Text.bytes (escapeMarks Marks.ofText text) := by
  induction text with
  | nil => rfl
  | cons character text ih =>
      have cut : escapeMarks Marks.ofText (character :: text) =
          escapeMarks Marks.ofText [character] ++ escapeMarks Marks.ofText text := by
        simp only [escapeMarks, List.flatMap_cons, List.flatMap_nil, List.append_nil]
      rw [Text.bytes_cons, escapeMarks, List.flatMap_append, ← escapeMarks, ← escapeMarks, ih,
        escapeMarks_utf8EncodeChar, cut, Text.bytes_append]

/-- A pattern of characters, read as bytes, is matched by the bytes of the same texts. -/
theorem matchesPattern_bytes_contains_iff (part text : List Char) :
    matchesPattern Marks.ofBytes
        (Text.bytes (Marks.ofText.run :: escapeMarks Marks.ofText part ++ [Marks.ofText.run]))
        (Text.bytes text) = true ↔ part <:+: text := by
  have pattern :
      Text.bytes (Marks.ofText.run :: escapeMarks Marks.ofText part ++ [Marks.ofText.run]) =
        Marks.ofBytes.run :: escapeMarks Marks.ofBytes (Text.bytes part) ++
          [Marks.ofBytes.run] := by
    rw [escapeMarks_bytes, Text.bytes_append, Text.bytes_cons]
    rfl
  rw [pattern, matchesPattern_contains_iff, Text.infix_bytes_iff]

/-! ## Places -/

/-- The place of a part in a text, counted from one, or zero where it does not occur. -/
def placeIn (part : List Char) : List Char → Nat
  | [] => if part.isEmpty then 1 else 0
  | character :: text =>
      if part.isPrefixOf (character :: text) then 1
      else
        match placeIn part text with
        | 0 => 0
        | place + 1 => place + 2

/-- A part has a place exactly when it occurs. -/
theorem placeIn_pos_iff (part text : List Char) : 0 < placeIn part text ↔ part <:+: text := by
  induction text with
  | nil => cases part <;> simp [placeIn]
  | cons character text ih =>
      rw [placeIn, List.infix_cons_iff, ← List.isPrefixOf_iff_prefix, ← ih]
      by_cases here : part.isPrefixOf (character :: text) = true
      · simp [here]
      · cases placeIn part text <;> simp [here]

/-! ## Conditions on texts -/

/-- What an operand is in a row. -/
inductive Content where
  | text (characters : List Char)
  /-- A text that is compared by its bytes. -/
  | bytes (bytes : List UInt8)
  | number (value : Int)

/-- What an operand is in a row whose columns hold the texts, where it is made of texts and
integers. Lower-casing is that of the library, for the whole text. -/
def Operand.content? (texts : Column → String) : Operand → Option Content
  | .column place => some (.text (texts place).toList)
  | .value (.text text) => some (.text text.toList)
  | .value (.int number) => some (.number number)
  | .lower operand =>
      match operand.content? texts with
      | some (.text characters) => some (.text (Text.lowerAfter [] characters))
      | _ => none
  | .binary operand =>
      match operand.content? texts with
      | some (.text characters) => some (.bytes (Text.bytes characters))
      | _ => none
  | .position operand (.text term) =>
      match operand.content? texts with
      | some (.text characters) => some (.number (placeIn term.toList characters))
      | _ => none
  | _ => none

/-- Whether a comparison holds of two integers. -/
def Comparison.holdsOf : Comparison → Int → Int → Bool
  | less, left, right => left < right
  | atMost, left, right => left ≤ right
  | greater, left, right => left > right
  | atLeast, left, right => left ≥ right
  | equal, left, right => left = right
  | unequal, left, right => left ≠ right

/-- Whether a condition holds in a row whose columns hold the texts, where it is a match of
a pattern with an escape mark or a comparison of integers. A pattern is matched by
characters, or by bytes where its operand is compared by bytes. -/
def Condition.holdsIn? (texts : Column → String) : Condition → Option Bool
  | .like negated operand pattern true =>
      match operand.content? texts with
      | some (.text characters) =>
          some (negated ^^ matchesPattern Marks.ofText pattern.toList characters)
      | some (.bytes bytes) =>
          some (negated ^^ matchesPattern Marks.ofBytes (Text.bytes pattern.toList) bytes)
      | _ => none
  | .compare comparison left right =>
      match left.content? texts, right.content? texts with
      | some (.number one), some (.number other) => some (comparison.holdsOf one other)
      | _, _ => none
  | _ => none

end QueryGate.Sql
