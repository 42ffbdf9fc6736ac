import QueryGate.Proofs.Search.Literal
import QueryGate.Proofs.Text.Lowercase

/-!
# Search without regard to case

Where case does not count, the term and the text are lower-cased apart, and the search asks
whether the one occurs in the other. Lower-casing goes character by character but for
capital sigmas, which become final at the end of a word; and the term is a word of its own,
while in the text it may stand inside one. So a text in which the term occurs is found where
each capital sigma of the term is as final in the text as in the term alone. The terms for
which no text is lost are those whose own characters settle the form of all their sigmas
(`textCondition_keeps_matches`).
-/

set_option autoImplicit false

namespace QueryGate

/-- The capital sigmas of a term are as final between the characters as in the term alone. -/
def KeepsSigmas (before term after : List Char) : Prop :=
  ∀ front back, term = front ++ 'Σ' :: back →
    Text.endsWord (front.reverse ++ before.reverse) (back ++ after) =
      Text.endsWord front.reverse back

/-- A search for which case does not count holds of the texts that contain the term after
both are lower-cased. -/
theorem holdsIn_textCondition_anyCase (backend : Sql.Backend) (column : Sql.Column)
    (term : String) (texts : Sql.Column → String) :
    (textCondition backend (.column column) ⟨term, false⟩).holdsIn? texts =
      some (decide ((Text.lowercase term).toList <:+:
        (Text.lowercase (texts column)).toList)) := by
  have matched := matchesPattern_containsPattern_iff (Text.lowercase term)
    (Text.lowerAfter [] (texts column).toList)
  refine congrArg some ?_
  rw [Bool.false_xor, Bool.eq_iff_iff, decide_eq_true_iff, Text.toList_lowercase (texts column)]
  exact matched

/-- A term between others whose sigmas keep their forms occurs in lower case, too. -/
theorem lowerAfter_infix_of_keepsSigmas {before term after : List Char}
    (keeps : KeepsSigmas before term after) :
    Text.lowerAfter [] term <:+: Text.lowerAfter [] (before ++ term ++ after) := by
  have same : Text.lowerBetween before.reverse after term = Text.lowerBetween [] [] term := by
    refine Text.lowerBetween_congr fun front back cut => ?_
    rw [List.append_nil, List.append_nil]
    exact keeps front back cut
  rw [Text.lowerAfter_eq_lowerBetween, ← same, List.append_assoc, Text.lowerAfter_append,
    Text.lowerAfter_append, List.append_nil]
  exact ⟨_, _, by rw [List.append_assoc]⟩

/-- A term with settled sigmas keeps them wherever it occurs. -/
theorem keepsSigmas_of_settled {term : List Char} (settled : Text.SettledSigmas term)
    (before after : List Char) : KeepsSigmas before term after :=
  fun front back cut => (settled front back cut).endsWord_eq before.reverse after

/-- A search for which case does not count holds, on every backend and in every row, exactly
of the texts that contain the term after both are lower-cased. A text with the term is among
them where each capital sigma of the term is as final in the text as in the term alone. The
search loses none of the texts with the term exactly when the term's own characters settle
the forms of its capital sigmas. -/
theorem textCondition_keeps_matches (backend : Sql.Backend) (column : Sql.Column)
    (term : String) :
    (∀ texts, (textCondition backend (.column column) ⟨term, false⟩).holdsIn? texts =
      some (decide ((Text.lowercase term).toList <:+:
        (Text.lowercase (texts column)).toList))) ∧
    (∀ texts before after, (texts column).toList = before ++ term.toList ++ after →
      KeepsSigmas before term.toList after →
        (textCondition backend (.column column) ⟨term, false⟩).holdsIn? texts = some true) ∧
    ((∀ texts, (textCondition backend (.column column) ⟨term, true⟩).holdsIn? texts = some true →
        (textCondition backend (.column column) ⟨term, false⟩).holdsIn? texts = some true) ↔
      Text.SettledSigmas term.toList) := by
  have holds_iff (texts : Sql.Column → String) :
      (textCondition backend (.column column) ⟨term, false⟩).holdsIn? texts = some true ↔
        Text.lowerAfter [] term.toList <:+: Text.lowerAfter [] (texts column).toList := by
    rw [holdsIn_textCondition_anyCase, Option.some_inj, decide_eq_true_iff,
      Text.toList_lowercase, Text.toList_lowercase]
  have contains_iff (texts : Sql.Column → String) :
      (textCondition backend (.column column) ⟨term, true⟩).holdsIn? texts = some true ↔
        term.toList <:+: (texts column).toList := by
    rw [holdsIn_textCondition_exactCase, Option.some_inj, decide_eq_true_iff]
  have found : ∀ texts before after, (texts column).toList = before ++ term.toList ++ after →
      KeepsSigmas before term.toList after →
        (textCondition backend (.column column) ⟨term, false⟩).holdsIn? texts = some true := by
    intro texts before after occurs keeps
    rw [holds_iff, occurs]
    exact lowerAfter_infix_of_keepsSigmas keeps
  refine ⟨holdsIn_textCondition_anyCase backend column term, found, ?_, ?_⟩
  · intro lossless
    by_contra unsettled
    obtain ⟨before, after, lost⟩ := Text.exists_lost_of_not_settled unsettled
    let texts : Sql.Column → String := fun _ => String.ofList (before ++ term.toList ++ after)
    have text : (texts column).toList = before ++ term.toList ++ after := String.toList_ofList
    refine lost ?_
    rw [← text, ← holds_iff]
    refine lossless texts ((contains_iff texts).mpr ?_)
    rw [text]
    exact ⟨before, after, rfl⟩
  · intro settled texts contains
    obtain ⟨before, after, occurs⟩ := (contains_iff texts).mp contains
    exact found texts before after occurs.symm (keepsSigmas_of_settled settled before after)

/-- The search for `ΑΣ` does not find `ΑΣΑ`, in which it occurs: alone its sigma is final. -/
theorem not_textCondition_keeps_matches_innerSigma :
    ¬ ∀ (backend : Sql.Backend) (column : Sql.Column) (term : String)
        (texts : Sql.Column → String), term ≠ "" → term.toList <:+: (texts column).toList →
        (textCondition backend (.column column) ⟨term, false⟩).holdsIn? texts = some true := by
  intro lossless
  have term : (String.ofList ['Α', 'Σ']).toList = ['Α', 'Σ'] := String.toList_ofList
  have text : (String.ofList ['Α', 'Σ', 'Α']).toList = ['Α', 'Σ', 'Α'] := String.toList_ofList
  have found := lossless .sqlite ⟨"tags", "name"⟩ (String.ofList ['Α', 'Σ'])
    (fun _ => String.ofList ['Α', 'Σ', 'Α']) (by decide)
    (by rw [term, text]; exact ⟨[], ['Α'], rfl⟩)
  rw [holdsIn_textCondition_anyCase, Option.some_inj, decide_eq_true_iff,
    Text.toList_lowercase, Text.toList_lowercase, term, text] at found
  have lost : ¬ Text.lowerAfter [] ['Α', 'Σ'] <:+: Text.lowerAfter [] ['Α', 'Σ', 'Α'] := by
    decide +kernel
  exact lost found

end QueryGate
