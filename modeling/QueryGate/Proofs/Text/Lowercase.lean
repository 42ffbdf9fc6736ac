import Mathlib.Data.List.Count
import Mathlib.Data.List.Infix
import Mathlib.Data.List.TakeWhile
import QueryGate.Text.Casing

/-!
# Lower case of a part of a text

A part of a text is put into lower case as it is alone, but for its capital sigmas: whether
a sigma is final is told by the characters around it, and for a sigma near an end of the
part these lie outside. A character that is not case-ignorable tells for all sigmas beyond
it; so the form of a sigma is settled when the part itself has a character with a case
behind it, one without a case before it, or a cased one before and an uncased one behind
(`Settles`).

Two places where the sigmas of a part have the same forms give the part one lower-case
form (`lowerBetween_congr`), and a settled sigma has one form in all places
(`Settles.endsWord_eq`). If some sigma of the part is not settled, there is a place where
the lower-case form of the part does not occur in that of the whole text
(`exists_lost_of_not_settled`).
-/

set_option autoImplicit false

namespace QueryGate.Text

theorem toList_lowercase (text : String) :
    (lowercase text).toList = lowerAfter [] text.toList :=
  String.toList_ofList

/-! ## Parts between others -/

/-- Whether a capital sigma takes its final form, between the characters before it, given
from the last to the first, and those after it. -/
def endsWord (before after : List Char) : Bool :=
  meetsCased before && !meetsCased after

/-- The lower-case form of a character between others. -/
def formBetween (before after : List Char) (character : Char) : List Char :=
  if character = 'Σ' then if endsWord before after then ['ς'] else ['σ'] else lowerForm character

/-- The part of the lower-cased text that comes from the characters between others. -/
def lowerBetween (before after : List Char) : List Char → List Char
  | [] => []
  | character :: rest =>
      formBetween before (rest ++ after) character ++ lowerBetween (character :: before) after rest

/-- A text is lower-cased part by part. -/
theorem lowerAfter_append (before part after : List Char) :
    lowerAfter before (part ++ after) =
      lowerBetween before after part ++ lowerAfter (part.reverse ++ before) after := by
  induction part generalizing before with
  | nil => rfl
  | cons character rest ih =>
      rw [List.cons_append, lowerAfter, ih, lowerBetween, List.append_assoc, List.reverse_cons,
        List.append_assoc]
      rfl

theorem lowerAfter_eq_lowerBetween (before part : List Char) :
    lowerAfter before part = lowerBetween before [] part := by
  have parts := lowerAfter_append before part []
  rwa [List.append_nil, lowerAfter, List.append_nil] at parts

theorem lowerBetween_append (before part rest after : List Char) :
    lowerBetween before after (part ++ rest) =
      lowerBetween before (rest ++ after) part ++
        lowerBetween (part.reverse ++ before) after rest := by
  induction part generalizing before with
  | nil => rfl
  | cons character part ih =>
      rw [List.cons_append, lowerBetween, ih, lowerBetween, List.append_assoc, List.append_assoc,
        List.reverse_cons, List.append_assoc]
      rfl

/-- A part whose sigmas are as final between the one as between the other characters has
one lower-case form. -/
theorem lowerBetween_congr {before before' after after' part : List Char}
    (same : ∀ front back, part = front ++ 'Σ' :: back →
      endsWord (front.reverse ++ before) (back ++ after) =
        endsWord (front.reverse ++ before') (back ++ after')) :
    lowerBetween before after part = lowerBetween before' after' part := by
  induction part generalizing before before' with
  | nil => rfl
  | cons character rest ih =>
      have here : formBetween before (rest ++ after) character =
          formBetween before' (rest ++ after') character := by
        unfold formBetween
        by_cases sigma : character = 'Σ'
        · have finals := same [] rest (by rw [sigma]; rfl)
          simp only [List.reverse_nil, List.nil_append] at finals
          rw [finals]
        · rw [if_neg sigma, if_neg sigma]
      rw [lowerBetween, lowerBetween, here]
      refine congrArg (formBetween before' (rest ++ after') character ++ ·) (ih ?_)
      intro front back cut
      have later := same (character :: front) back (by rw [cut]; rfl)
      simpa only [List.reverse_cons, List.append_assoc, List.singleton_append] using later

/-! ## Settled sigmas -/

/-- Some of the characters tells, for a sigma beyond them, whether it is next to a
character with a case. -/
def Tells (characters : List Char) : Prop :=
  ∃ character ∈ characters, isCaseIgnorable character = false

/-- Characters that tell do so whatever lies beyond them. -/
theorem meetsCased_append_of_tells {characters : List Char} (tells : Tells characters)
    (beyond : List Char) : meetsCased (characters ++ beyond) = meetsCased characters := by
  have stops : ¬ (characters.dropWhile isCaseIgnorable).isEmpty = true := by
    rw [List.isEmpty_iff, List.dropWhile_eq_nil_iff]
    obtain ⟨character, member, told⟩ := tells
    intro ignored
    rw [ignored character member] at told
    cases told
  obtain ⟨first, rest, left⟩ := List.exists_cons_of_ne_nil (mt List.isEmpty_iff.mpr stops)
  rw [meetsCased, meetsCased, List.dropWhile_append, if_neg stops, left]
  rfl

/-- Characters that do not tell leave it to those beyond them. -/
theorem meetsCased_append_of_not_tells {characters : List Char} (silent : ¬ Tells characters)
    (beyond : List Char) : meetsCased (characters ++ beyond) = meetsCased beyond := by
  have ignored : ∀ character ∈ characters, isCaseIgnorable character = true := by
    intro character member
    by_contra told
    exact silent ⟨character, member, Bool.eq_false_iff.mpr told⟩
  rw [meetsCased, meetsCased, List.dropWhile_append_of_pos ignored]

theorem not_meetsCased_of_not_tells {characters : List Char} (silent : ¬ Tells characters) :
    meetsCased characters = false := by
  have empty := meetsCased_append_of_not_tells silent []
  rwa [List.append_nil] at empty

theorem tells_of_meetsCased {characters : List Char} (cased : meetsCased characters = true) :
    Tells characters := by
  by_contra silent
  rw [not_meetsCased_of_not_tells silent] at cased
  cases cased

/-- The characters of a part around a sigma settle its form: one with a case follows, one
without a case comes before, or a cased one comes before and one without a case follows.
The characters before it are given from the last to the first. -/
def Settles (before after : List Char) : Prop :=
  meetsCased after = true ∨ (Tells before ∧ meetsCased before = false) ∨
    (meetsCased before = true ∧ Tells after ∧ meetsCased after = false)

/-- A settled sigma has one form, whatever stands around the part. -/
theorem Settles.endsWord_eq {before after : List Char} (settles : Settles before after)
    (outer beyond : List Char) :
    endsWord (before ++ outer) (after ++ beyond) = endsWord before after := by
  unfold endsWord
  rcases settles with cased | ⟨tells, uncased⟩ | ⟨cased, tells, _⟩
  · rw [meetsCased_append_of_tells (tells_of_meetsCased cased), cased, Bool.not_true,
      Bool.and_false, Bool.and_false]
  · rw [meetsCased_append_of_tells tells, uncased, Bool.false_and, Bool.false_and]
  · rw [meetsCased_append_of_tells (tells_of_meetsCased cased), meetsCased_append_of_tells tells]

/-- Every capital sigma of a part is settled by the other characters of the part. -/
def SettledSigmas (part : List Char) : Prop :=
  ∀ before after, part = before ++ 'Σ' :: after → Settles before.reverse after

/-! ## Sigmas that are not settled -/

/-- The small sigma in place of its final form. -/
def unfinal (character : Char) : Char :=
  if character = 'ς' then 'σ' else character

/-- But for the forms of sigmas, a part lower-cases alike wherever it stands. -/
theorem map_unfinal_lowerBetween (before after before' after' part : List Char) :
    (lowerBetween before after part).map unfinal =
      (lowerBetween before' after' part).map unfinal := by
  induction part generalizing before before' with
  | nil => rfl
  | cons character rest ih =>
      have here : (formBetween before (rest ++ after) character).map unfinal =
          (formBetween before' (rest ++ after') character).map unfinal := by
        unfold formBetween
        split
        · have form (final : Bool) : (if final then ['ς'] else ['σ']).map unfinal = ['σ'] := by
            cases final <;> decide
          rw [form, form]
        · rfl
      rw [lowerBetween, lowerBetween, List.map_append, List.map_append, here,
        ih (character :: before) (character :: before')]

theorem length_lowerBetween (before after before' after' part : List Char) :
    (lowerBetween before after part).length = (lowerBetween before' after' part).length := by
  have same := congrArg List.length (map_unfinal_lowerBetween before after before' after' part)
  rwa [List.length_map, List.length_map] at same

theorem count_lowerBetween {character : Char} (other : character ≠ 'ς') (other' : character ≠ 'σ')
    (before after before' after' part : List Char) :
    (lowerBetween before after part).count character =
      (lowerBetween before' after' part).count character := by
  have kept (text : List Char) : (text.map unfinal).count character = text.count character := by
    rw [List.count_eq_countP, List.countP_map, List.count_eq_countP]
    refine List.countP_congr fun one _ => ?_
    rw [Function.comp, beq_iff_eq, beq_iff_eq, unfinal]
    split
    · next final => exact iff_of_false other'.symm fun same => other (same.symm.trans final)
    · rfl
  rw [← kept, map_unfinal_lowerBetween before after before' after', kept]

/-- A part has as many final sigmas as between other characters, if each that is final
there is final here. -/
theorem count_final_le {before before' after after' part : List Char}
    (keeps : ∀ front back, part = front ++ 'Σ' :: back →
      endsWord (front.reverse ++ before) (back ++ after) = true →
        endsWord (front.reverse ++ before') (back ++ after') = true) :
    (lowerBetween before after part).count 'ς' ≤ (lowerBetween before' after' part).count 'ς' := by
  induction part generalizing before before' with
  | nil => exact Nat.le_refl _
  | cons character rest ih =>
      have here : (formBetween before (rest ++ after) character).count 'ς' ≤
          (formBetween before' (rest ++ after') character).count 'ς' := by
        unfold formBetween
        by_cases sigma : character = 'Σ'
        · have finals := keeps [] rest (by rw [sigma]; rfl)
          simp only [List.reverse_nil, List.nil_append] at finals
          rw [if_pos sigma, if_pos sigma]
          cases ends : endsWord before (rest ++ after) with
          | false => exact Nat.zero_le _
          | true => rw [finals ends]
        · rw [if_neg sigma, if_neg sigma]
      rw [lowerBetween, lowerBetween, List.count_append, List.count_append]
      refine Nat.add_le_add here (ih fun front back cut => ?_)
      have later := keeps (character :: front) back (by rw [cut]; rfl)
      simpa only [List.reverse_cons, List.append_assoc, List.singleton_append] using later

/-- It has more of them, if some sigma is final here only. -/
theorem count_final_lt {before before' after after' front back : List Char}
    (keeps : ∀ first last, front ++ 'Σ' :: back = first ++ 'Σ' :: last →
      endsWord (first.reverse ++ before) (last ++ after) = true →
        endsWord (first.reverse ++ before') (last ++ after') = true)
    (inner : endsWord (front.reverse ++ before) (back ++ after) = false)
    (final : endsWord (front.reverse ++ before') (back ++ after') = true) :
    (lowerBetween before after (front ++ 'Σ' :: back)).count 'ς' <
      (lowerBetween before' after' (front ++ 'Σ' :: back)).count 'ς' := by
  have sooner : (lowerBetween before ('Σ' :: back ++ after) front).count 'ς' ≤
      (lowerBetween before' ('Σ' :: back ++ after') front).count 'ς' := by
    refine count_final_le fun first last cut => ?_
    have kept := keeps first (last ++ 'Σ' :: back) (by rw [cut]; simp)
    simpa only [List.append_assoc] using kept
  have later : (lowerBetween ('Σ' :: (front.reverse ++ before)) after back).count 'ς' ≤
      (lowerBetween ('Σ' :: (front.reverse ++ before')) after' back).count 'ς' := by
    refine count_final_le fun first last cut => ?_
    have kept := keeps (front ++ 'Σ' :: first) last (by rw [cut]; simp)
    simpa only [List.reverse_append, List.reverse_cons, List.append_assoc, List.cons_append,
      List.nil_append] using kept
  have split (before after : List Char) :
      (lowerBetween before after (front ++ 'Σ' :: back)).count 'ς' =
        (lowerBetween before ('Σ' :: back ++ after) front).count 'ς' +
          ((if endsWord (front.reverse ++ before) (back ++ after) then ['ς'] else ['σ']).count 'ς' +
            (lowerBetween ('Σ' :: (front.reverse ++ before)) after back).count 'ς') := by
    rw [lowerBetween_append, List.count_append, lowerBetween, List.count_append]
    rfl
  have one : ['ς'].count 'ς' = 1 := by decide
  have none : ['σ'].count 'ς' = 0 := by decide
  rw [split, split, inner, final, if_pos rfl, if_neg Bool.false_ne_true, one, none]
  omega

/-- A part does not occur in a text with one character more, when this character is counted
once more and another one not as often. -/
theorem not_infix_of_counts {one other : Char} (apart : one ≠ other) {part text : List Char}
    (longer : text.length = part.length + 1) (more : text.count one = part.count one + 1)
    (differs : text.count other ≠ part.count other) : ¬ part <:+: text := by
  rintro ⟨before, after, rfl⟩
  simp only [List.length_append, List.count_append] at longer more differs
  obtain ⟨extra, alone⟩ : ∃ extra, before ++ after = [extra] := by
    rw [← List.length_eq_one_iff, List.length_append]
    omega
  have same : before.count one + after.count one = 1 := by omega
  rw [← List.count_append, alone, List.count_singleton] at same
  have extraOne : extra = one := by
    by_contra unequal
    rw [if_neg (by simpa using unequal)] at same
    cases same
  have unlike : before.count other + after.count other = 0 := by
    rw [← List.count_append, alone, extraOne, List.count_singleton, if_neg (by simpa using apart)]
  omega

/-- A letter behind a part makes sigmas inner, and none final. -/
theorem endsWord_of_append_letter {before after : List Char}
    (final : endsWord before (after ++ ['a']) = true) : endsWord before after = true := by
  unfold endsWord at final ⊢
  cases cased : meetsCased after with
  | true =>
      rw [meetsCased_append_of_tells (tells_of_meetsCased cased), cased, Bool.not_true,
        Bool.and_false] at final
      cases final
  | false => exact Bool.and_eq_true_iff.mpr ⟨(Bool.and_eq_true_iff.mp final).1, rfl⟩

/-- A letter before a part makes sigmas final, and none inner. -/
theorem endsWord_append_letter {before after : List Char}
    (final : endsWord before after = true) : endsWord (before ++ ['a']) after = true := by
  unfold endsWord at final ⊢
  have cased := (Bool.and_eq_true_iff.mp final).1
  rwa [meetsCased_append_of_tells (tells_of_meetsCased cased)]

theorem meetsCased_letter : meetsCased ['a'] = true := by decide

theorem lowerForm_letter : lowerForm 'a' = ['a'] := by decide

/-- A part does not occur in lower case where one letter more on a side of it is the only
difference, but for the number of final sigmas. -/
theorem not_infix_of_finals {before after part extended : List Char}
    (longer : extended.length = (lowerBetween before after part).length + 1)
    (more : extended.count 'a' = (lowerBetween before after part).count 'a' + 1)
    (finals : extended.count 'ς' = (lowerBetween before after part).count 'ς')
    (differs : (lowerBetween before after part).count 'ς' ≠
      (lowerBetween [] [] part).count 'ς') :
    ¬ lowerAfter [] part <:+: extended := by
  have apart : 'a' ≠ 'ς' := by decide
  rw [lowerAfter_eq_lowerBetween]
  refine not_infix_of_counts apart ?_ ?_ ?_
  · rw [longer, length_lowerBetween before after [] []]
  · rw [more, count_lowerBetween apart (by decide) before after [] []]
  · rwa [finals]

/-- A sigma that is final in a part alone, with nothing behind it that tells, is inner where a
letter follows the part. -/
theorem lost_before_letter {front back : List Char} (cased : meetsCased front.reverse = true)
    (silent : ¬ Tells back) :
    ¬ lowerAfter [] (front ++ 'Σ' :: back) <:+:
      lowerAfter [] (front ++ 'Σ' :: back ++ ['a']) := by
  have fewer : (lowerBetween [] ['a'] (front ++ 'Σ' :: back)).count 'ς' <
      (lowerBetween [] [] (front ++ 'Σ' :: back)).count 'ς' := by
    refine count_final_lt (fun first last _ final => ?_) ?_ ?_
    · rw [List.append_nil last]
      exact endsWord_of_append_letter final
    · rw [endsWord, meetsCased_append_of_not_tells silent, meetsCased_letter, Bool.not_true,
        Bool.and_false]
    · rw [endsWord, List.append_nil, List.append_nil, cased, not_meetsCased_of_not_tells silent]
      rfl
  have extended : lowerAfter [] (front ++ 'Σ' :: back ++ ['a']) =
      lowerBetween [] ['a'] (front ++ 'Σ' :: back) ++ ['a'] := by
    rw [lowerAfter_append, lowerAfter, if_neg (by decide), lowerForm_letter]
    rfl
  rw [extended]
  refine not_infix_of_finals ?_ ?_ ?_ (Nat.ne_of_lt fewer)
  · rw [List.length_append]
    rfl
  · rw [List.count_append]
    rfl
  · rw [List.count_append]
    rfl

/-- A sigma with nothing before it that tells, and no character with a case behind it, is not
final in the part alone, and is so where a letter comes before the part. -/
theorem lost_after_letter {front back : List Char} (silent : ¬ Tells front.reverse)
    (uncased : meetsCased back = false) :
    ¬ lowerAfter [] (front ++ 'Σ' :: back) <:+:
      lowerAfter [] ('a' :: (front ++ 'Σ' :: back)) := by
  have more : (lowerBetween [] [] (front ++ 'Σ' :: back)).count 'ς' <
      (lowerBetween ['a'] [] (front ++ 'Σ' :: back)).count 'ς' := by
    refine count_final_lt (fun first last _ final => ?_) ?_ ?_
    · rw [List.append_nil first.reverse] at final
      exact endsWord_append_letter final
    · rw [endsWord, List.append_nil, not_meetsCased_of_not_tells silent, Bool.false_and]
    · rw [endsWord, meetsCased_append_of_not_tells silent, meetsCased_letter, List.append_nil,
        uncased]
      rfl
  have extended : lowerAfter [] ('a' :: (front ++ 'Σ' :: back)) =
      'a' :: lowerBetween ['a'] [] (front ++ 'Σ' :: back) := by
    rw [lowerAfter, if_neg (by decide), lowerForm_letter, lowerAfter_eq_lowerBetween]
    rfl
  rw [extended]
  refine not_infix_of_finals (List.length_cons ..) (List.count_cons_self ..) ?_
    (Nat.ne_of_gt more)
  exact List.count_cons_of_ne (by decide)

/-- A part with a sigma that is not settled stands somewhere where its lower-case form does
not occur in that of the whole text. -/
theorem exists_lost_of_not_settled {part : List Char} (unsettled : ¬ SettledSigmas part) :
    ∃ before after, ¬ lowerAfter [] part <:+: lowerAfter [] (before ++ part ++ after) := by
  unfold SettledSigmas at unsettled
  push Not at unsettled
  obtain ⟨front, back, rfl, loose⟩ := unsettled
  simp only [Settles, not_or, not_and, Bool.not_eq_true] at loose
  obtain ⟨uncased, quiet, bare⟩ := loose
  cases cased : meetsCased front.reverse with
  | true =>
      have silent : ¬ Tells back := fun tells => bare cased tells uncased
      exact ⟨[], ['a'], lost_before_letter cased silent⟩
  | false =>
      have silent : ¬ Tells front.reverse := fun tells => quiet tells cased
      refine ⟨['a'], [], ?_⟩
      rw [List.append_nil]
      exact lost_after_letter silent uncased

end QueryGate.Text
