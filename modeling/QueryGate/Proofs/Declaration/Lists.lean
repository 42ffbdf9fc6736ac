import Mathlib.Data.List.Forall2
import QueryGate.Declaration.Columns
import QueryGate.Proofs.Success

/-!
# Lists of flags

A flag is a path that stands alone. Written in a list, it is followed by a comma or ends the
list, and neither changes how the path is read, so a list of flags is read flag by flag
(`Member.readList_separated`). It does not matter to the paths in which lists they are
written.
-/

set_option autoImplicit false

namespace QueryGate

/-! ## Paths before a comma -/

namespace AttributePath

/-- A path takes tokens that are there. -/
theorem length_readLater_le {tokens : List Token} {words : List String}
    (read : readLater tokens = .ok words) : 3 * words.length ≤ tokens.length := by
  induction tokens using readLater.induct generalizing words with
  | case1 joint word rest held ih =>
      rw [readLater, if_pos held] at read
      obtain ⟨later, made, same⟩ := (Success.bind_eq_ok_iff _ _ _).mp read
      cases same
      have fits := ih made
      simp only [List.length_cons]
      omega
  | case2 joint word rest held =>
      rw [readLater, if_neg held] at read
      cases read
  | case3 joint rest bare =>
      rw [readLater] at read
      · cases read
      · exact bare
  | case4 tokens _ _ =>
      rw [readLater] at read
      · cases read
        exact Nat.zero_le _
      all_goals assumption

/-- A path that takes all tokens is read the same where a comma follows. -/
theorem readLater_comma {tokens : List Token} {words : List String}
    (read : readLater tokens = .ok words) (whole : tokens.length ≤ 3 * words.length)
    (joint : Bool) (rest : List Token) :
    readLater (tokens ++ .mark ',' joint :: rest) = .ok words := by
  induction tokens using readLater.induct generalizing words with
  | case1 joint word rest held ih =>
      rw [readLater, if_pos held] at read
      obtain ⟨later, made, same⟩ := (Success.bind_eq_ok_iff _ _ _).mp read
      cases same
      have left : rest.length ≤ 3 * later.length := by
        simp only [List.length_cons] at whole
        omega
      simp only [List.cons_append, readLater, if_pos held, ih made left]
      rfl
  | case2 joint word rest held =>
      rw [readLater, if_neg held] at read
      cases read
  | case3 joint rest bare =>
      rw [readLater] at read
      · cases read
      · exact bare
  | case4 tokens _ _ =>
      rw [readLater] at read
      · cases read
        rw [List.length_nil, Nat.mul_zero, Nat.le_zero, List.length_eq_zero_iff] at whole
        subst whole
        rw [List.nil_append, readLater]
        all_goals simp
      all_goals assumption

/-- Words begin with a word that may stand in a path. -/
theorem readWords_eq_ok_iff (tokens : List Token) (words : List String) :
    readWords tokens = .ok words ↔
      ∃ word rest later, tokens = .word word :: rest ∧ mayHold word = true ∧
        readLater rest = .ok later ∧ words = word :: later := by
  constructor
  · intro read
    unfold readWords at read
    split at read
    · next word rest =>
        split at read
        · next held =>
            obtain ⟨later, made, same⟩ := (Success.bind_eq_ok_iff _ _ _).mp read
            cases same
            exact ⟨word, rest, later, rfl, held, made, rfl⟩
        · cases read
    · cases read
  · rintro ⟨word, rest, later, rfl, held, made, rfl⟩
    rw [readWords, if_pos held, made]
    rfl

theorem length_readWords_le {tokens : List Token} {words : List String}
    (read : readWords tokens = .ok words) : 3 * words.length ≤ tokens.length + 2 := by
  obtain ⟨word, rest, later, rfl, _, made, rfl⟩ := (readWords_eq_ok_iff _ _).mp read
  have fits := length_readLater_le made
  simp only [List.length_cons]
  omega

theorem readWords_comma {tokens : List Token} {words : List String}
    (read : readWords tokens = .ok words) (whole : tokens.length + 2 ≤ 3 * words.length)
    (joint : Bool) (rest : List Token) :
    readWords (tokens ++ .mark ',' joint :: rest) = .ok words := by
  obtain ⟨word, others, later, rfl, held, made, rfl⟩ := (readWords_eq_ok_iff _ _).mp read
  have left : others.length ≤ 3 * later.length := by
    simp only [List.length_cons] at whole
    omega
  exact (readWords_eq_ok_iff _ _).mpr
    ⟨word, _, later, rfl, held, readLater_comma made left joint rest, rfl⟩

/-- What is read is the one word that ends a path, or words behind a separator or not. -/
theorem read_eq_ok_iff (tokens : List Token) (path : AttributePath) :
    read tokens = .ok path ↔
      (∃ rest, tokens = .word "unsafe" :: rest ∧ path = ⟨false, ["unsafe"]⟩) ∨
        (∃ joint rest words, tokens = .mark ':' true :: .mark ':' joint :: rest ∧
          readWords rest = .ok words ∧ path = ⟨true, words⟩) ∨
        ∃ words, (∀ rest, tokens ≠ .word "unsafe" :: rest) ∧ readWords tokens = .ok words ∧
          path = ⟨false, words⟩ := by
  constructor
  · intro given
    unfold read at given
    split at given
    · next rest =>
        cases given
        exact .inl ⟨rest, rfl, rfl⟩
    · next joint rest =>
        obtain ⟨words, made, same⟩ := (Success.bind_eq_ok_iff _ _ _).mp given
        cases same
        exact .inr (.inl ⟨joint, rest, words, rfl, made, rfl⟩)
    · next safe _ =>
        obtain ⟨words, made, same⟩ := (Success.bind_eq_ok_iff _ _ _).mp given
        cases same
        exact .inr (.inr ⟨words, safe, made, rfl⟩)
  · rintro (⟨rest, rfl, rfl⟩ | ⟨joint, rest, words, rfl, made, rfl⟩ | ⟨words, safe, made, rfl⟩)
    · rfl
    · rw [read, made]
      rfl
    · rw [read, made]
      · rfl
      · exact safe
      · rintro joint rest rfl
        obtain ⟨_, _, _, impossible, _⟩ := (readWords_eq_ok_iff _ _).mp made
        cases impossible

theorem extent_rooted (words : List String) : extent ⟨true, words⟩ = 3 * words.length := rfl

theorem extent_unrooted (words : List String) : extent ⟨false, words⟩ = 3 * words.length - 2 := rfl

/-- A path takes tokens that are there. -/
theorem extent_le_of_read {tokens : List Token} {path : AttributePath}
    (given : read tokens = .ok path) : path.extent ≤ tokens.length := by
  rcases (read_eq_ok_iff _ _).mp given with
    ⟨rest, rfl, rfl⟩ | ⟨joint, rest, words, rfl, made, rfl⟩ | ⟨words, _, made, rfl⟩
  · exact Nat.succ_le_succ (Nat.zero_le _)
  · have fits := length_readWords_le made
    rw [extent_rooted, List.length_cons, List.length_cons]
    exact fits
  · have fits := length_readWords_le made
    rw [extent_unrooted]
    omega

/-- A path that takes all tokens is read the same where a comma follows. -/
theorem read_comma {tokens : List Token} {path : AttributePath} (given : read tokens = .ok path)
    (whole : tokens.length ≤ path.extent) (joint : Bool) (rest : List Token) :
    read (tokens ++ .mark ',' joint :: rest) = .ok path := by
  rcases (read_eq_ok_iff _ _).mp given with
    ⟨_, rfl, rfl⟩ | ⟨_, others, words, rfl, made, rfl⟩ | ⟨words, safe, made, rfl⟩
  · rfl
  · have left : others.length + 2 ≤ 3 * words.length := by
      rw [extent_rooted, List.length_cons, List.length_cons] at whole
      exact whole
    exact (read_eq_ok_iff _ _).mpr
      (.inr (.inl ⟨_, _, words, rfl, readWords_comma made left joint rest, rfl⟩))
  · have left : tokens.length + 2 ≤ 3 * words.length := by
      obtain ⟨_, _, _, _, _, _, rfl⟩ := (readWords_eq_ok_iff _ _).mp made
      rw [extent_unrooted] at whole
      rw [List.length_cons] at whole ⊢
      omega
    refine (read_eq_ok_iff _ _).mpr
      (.inr (.inr ⟨words, ?_, readWords_comma made left joint rest, rfl⟩))
    intro others same
    obtain ⟨word, further, _, rfl, _⟩ := (readWords_eq_ok_iff _ _).mp made
    cases same
    exact safe further rfl

end AttributePath

/-! ## Flags before a comma -/

namespace Member

/-- A flag that stands alone is a path that takes all tokens. -/
theorem readAlone_eq_flag {tokens : List Token} {path : AttributePath}
    (alone : readAlone tokens = .ok (.flag path)) :
    AttributePath.read tokens = .ok path ∧ tokens.length = path.extent := by
  obtain ⟨⟨member, extent⟩, made, rest⟩ := (Success.bind_eq_ok_iff _ _ _).mp alone
  have shorter : ¬ extent < tokens.length ∧ member = .flag path := by
    dsimp only at rest
    split at rest
    · cases rest
    · next whole =>
        cases rest
        exact ⟨whole, rfl⟩
  obtain ⟨whole, rfl⟩ := shorter
  obtain ⟨found, read, rest⟩ := (Success.bind_eq_ok_iff _ _ _).mp made
  have fits := AttributePath.extent_le_of_read read
  dsimp only at rest
  split at rest
  · cases rest
  · obtain ⟨_, _, impossible⟩ := (Success.bind_eq_ok_iff _ _ _).mp rest
    cases impossible
  · cases rest
    exact ⟨read, by omega⟩

/-- A flag takes the tokens up to the end or a comma. -/
theorem read_flag {tokens rest : List Token} {path : AttributePath}
    (read : AttributePath.read (tokens ++ rest) = .ok path) (whole : tokens.length = path.extent)
    (stops : rest = [] ∨ ∃ joint others, rest = .mark ',' joint :: others) :
    Member.read (tokens ++ rest) = .ok (.flag path, path.extent) := by
  have left : (tokens ++ rest).drop path.extent = rest := by
    rw [← whole, List.drop_left]
  unfold Member.read
  refine (Success.bind_eq_ok_iff _ _ _).mpr ⟨path, read, ?_⟩
  dsimp only
  rw [left]
  rcases stops with rfl | ⟨joint, others, rfl⟩ <;> rfl

/-- A list begins with the flag before its first comma. -/
theorem readList_comma {tokens : List Token} {path : AttributePath}
    (read : AttributePath.read tokens = .ok path) (whole : tokens.length = path.extent)
    (joint : Bool) (rest : List Token) {members : List Member}
    (later : readList rest = .ok members) :
    readList (tokens ++ .mark ',' joint :: rest) = .ok (.flag path :: members) := by
  have front := read_flag (AttributePath.read_comma read (Nat.le_of_eq whole) joint rest) whole
    (.inr ⟨joint, rest, rfl⟩)
  cases tokens with
  | nil => cases read
  | cons first others =>
      rw [List.cons_append] at front ⊢
      rw [List.length_cons] at whole
      have here : (others ++ .mark ',' joint :: rest).drop (path.extent - 1) =
          .mark ',' joint :: rest := by
        rw [← whole, Nat.add_sub_cancel, List.drop_left]
      have there : (others ++ .mark ',' joint :: rest).drop path.extent = rest := by
        rw [← whole, ← List.drop_drop, List.drop_left]
        rfl
      rw [readList]
      refine (Success.bind_eq_ok_iff _ _ _).mpr ⟨_, front, ?_⟩
      dsimp only
      rw [here, there, later]
      rfl

theorem readList_last {tokens : List Token} {path : AttributePath}
    (read : AttributePath.read tokens = .ok path) (whole : tokens.length = path.extent) :
    readList tokens = .ok [.flag path] := by
  have front : Member.read (tokens ++ []) = .ok (.flag path, path.extent) :=
    read_flag (by rw [List.append_nil]; exact read) whole (.inl rfl)
  rw [List.append_nil] at front
  cases tokens with
  | nil => cases read
  | cons first others =>
      rw [List.length_cons] at whole
      have here : others.drop (path.extent - 1) = [] := by
        rw [← whole, Nat.add_sub_cancel, List.drop_length]
      rw [readList]
      refine (Success.bind_eq_ok_iff _ _ _).mpr ⟨_, front, ?_⟩
      dsimp only
      rw [here]
      rfl

/-- Flags with commas between them are read one by one. -/
theorem readList_separated {items : List Attribute} {paths : List AttributePath}
    (each : List.Forall₂ (fun item path => item.member? = some (.flag path)) items paths) :
    readList (Attribute.separated items) = .ok (paths.map .flag) := by
  induction each with
  | nil => rw [Attribute.separated, readList, List.map_nil]
  | @cons item path items paths here there ih =>
      have alone := (Success.toOption_eq_some_iff _ _).mp here
      obtain ⟨read, whole⟩ := readAlone_eq_flag alone
      cases there with
      | nil => exact readList_last read whole
      | cons _ _ => exact readList_comma read whole false _ ih

end Member

/-! ## Lists of flags -/

namespace Attribute

/-- The attribute is a list of flags, with the paths in their order. -/
def ListsFlags (given : Attribute) (paths : List AttributePath) : Prop :=
  ∃ list, given.member? = some list ∧ list.members = .ok (paths.map .flag)

/-- The path of an attribute that is a flag. -/
def flagPath? (given : Attribute) : Option AttributePath :=
  given.member?.bind fun member =>
    match member with
    | .flag path => some path
    | _ => none

theorem flagPath?_eq_some_iff (given : Attribute) (path : AttributePath) :
    given.flagPath? = some path ↔ given.member? = some (.flag path) := by
  unfold flagPath?
  cases given.member? with
  | none => simp
  | some member => cases member <;> simp

example : (flag "filterable").flagPath? = some ⟨false, ["filterable"]⟩ := by
  decide +kernel

/-- An attribute for queries that is written as a list is read as one. -/
theorem member?_query (items : List Attribute) :
    (list "query" items).member? = some (.list ⟨false, ["query"]⟩ (separated items)) := by
  have word : Token.ofText "query" = [.word "query"] := by with_unfolding_all rfl
  rw [member?, tokens, word]
  rfl

theorem listsFlags_query {items : List Attribute}
    (flags : ∀ item ∈ items, item.flagPath?.isSome = true) :
    (list "query" items).ListsFlags (items.filterMap flagPath?) := by
  refine ⟨_, member?_query items, Member.readList_separated ?_⟩
  induction items with
  | nil => exact .nil
  | cons item items ih =>
      obtain ⟨here, there⟩ := List.forall_mem_cons.mp flags
      obtain ⟨path, found⟩ := Option.isSome_iff_exists.mp here
      rw [List.filterMap_cons_some found]
      exact .cons ((flagPath?_eq_some_iff item path).mp found) (ih there)

end Attribute

end QueryGate
