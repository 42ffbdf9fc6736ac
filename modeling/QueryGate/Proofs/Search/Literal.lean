import QueryGate.Build.Search
import QueryGate.Proofs.Sql.Matching

/-!
# Search terms match literally

Where case counts, each backend has its own form of the search for a term, and all of
them hold of the same texts: those in which the term occurs (`textCondition_contains`).
The pattern of a term has each of its marks escaped, in whatever mixture they stand in the
term. Escaping them one after another comes to the same as escaping all at once, if the
escape mark goes first (`escapePattern_eq_substitute`).
-/

set_option autoImplicit false

namespace QueryGate

/-! ## Escaping -/

theorem toList_containsPattern (term : String) :
    (containsPattern term).toList =
      Sql.Marks.ofText.run :: Sql.escapeMarks Sql.Marks.ofText term.toList ++
        [Sql.Marks.ofText.run] :=
  String.toList_ofList

/-- A character after which no other is escaped may be escaped by a pass of its own. -/
theorem escapePattern_eq_substitute (text : List Char) :
    escapePattern text =
      Text.substitute '_' ['\x5C', '_']
        (Text.substitute '%' ['\x5C', '%'] (Text.substitute '\x5C' ['\x5C', '\x5C'] text)) := by
  simp only [escapePattern, Text.substitute, List.flatMap_assoc]
  refine List.flatMap_congr fun character _ => ?_
  by_cases escape : character = '\x5C'
  · rw [escape]
    decide
  · by_cases run : character = '%'
    · rw [run]
      decide
    · by_cases single : character = '_'
      · rw [single]
        decide
      · simp [escape, run, single]

/-- Escaping marks by three passes, with the escape mark first, is escaping them all. -/
theorem containsPattern_eq (term : String) :
    containsPattern term =
      String.ofList ('%' ::
        Text.substitute '_' ['\x5C', '_']
          (Text.substitute '%' ['\x5C', '%']
            (Text.substitute '\x5C' ['\x5C', '\x5C'] term.toList)) ++ ['%']) := by
  rw [containsPattern, escapePattern_eq_substitute]

/-! ## Matching -/

/-- The pattern of a term is matched by the texts in which the term occurs. -/
theorem matchesPattern_containsPattern_iff (term : String) (text : List Char) :
    Sql.matchesPattern Sql.Marks.ofText (containsPattern term).toList text = true ↔
      term.toList <:+: text := by
  rw [toList_containsPattern, Sql.matchesPattern_contains_iff]

/-- So it is where pattern and text are compared by bytes. -/
theorem matchesPattern_bytes_containsPattern_iff (term : String) (text : List Char) :
    Sql.matchesPattern Sql.Marks.ofBytes (Text.bytes (containsPattern term).toList)
        (Text.bytes text) = true ↔ term.toList <:+: text := by
  rw [toList_containsPattern, Sql.matchesPattern_bytes_contains_iff]

/-- A search for which case counts holds of the texts in which the term occurs. -/
theorem holdsIn_textCondition_exactCase (backend : Sql.Backend) (column : Sql.Column)
    (term : String) (texts : Sql.Column → String) :
    (textCondition backend (.column column) ⟨term, true⟩).holdsIn? texts =
      some (decide (term.toList <:+: (texts column).toList)) := by
  cases backend with
  | sqlite =>
      have place := Sql.placeIn_pos_iff term.toList (texts column).toList
      refine congrArg some (decide_eq_decide.mpr ?_)
      rw [← place]
      exact Int.natCast_pos
  | mysql =>
      have bytes := matchesPattern_bytes_containsPattern_iff term (texts column).toList
      refine congrArg some ?_
      rw [Bool.false_xor, Bool.eq_iff_iff, decide_eq_true_iff]
      exact bytes
  | postgres =>
      have matched := matchesPattern_containsPattern_iff term (texts column).toList
      refine congrArg some ?_
      rw [Bool.false_xor, Bool.eq_iff_iff, decide_eq_true_iff]
      exact matched

/-- A search for which case counts holds, on every backend and in every row, exactly of the
texts in which the term occurs. The pattern behind two of the forms is the term between two
marks for any run, with the escape mark, the mark for a run and the mark for one character
escaped one after another, and its matches are the texts with the term. -/
theorem textCondition_contains (backend : Sql.Backend) (column : Sql.Column) (term : String)
    (texts : Sql.Column → String) :
    (textCondition backend (.column column) ⟨term, true⟩).holdsIn? texts =
        some (decide (term.toList <:+: (texts column).toList)) ∧
      (Sql.matchesPattern Sql.Marks.ofText (containsPattern term).toList (texts column).toList =
        true ↔ term.toList <:+: (texts column).toList) ∧
      containsPattern term =
        String.ofList ('%' ::
          Text.substitute '_' ['\x5C', '_']
            (Text.substitute '%' ['\x5C', '%']
              (Text.substitute '\x5C' ['\x5C', '\x5C'] term.toList)) ++ ['%']) :=
  ⟨holdsIn_textCondition_exactCase backend column term texts,
    matchesPattern_containsPattern_iff term (texts column).toList, containsPattern_eq term⟩

/-- Marks in any mixture stand for themselves: `a\%_` occurs in `xa\%_y`, and neither in
`xa\%by` nor in `xa%_y`. -/
example : ['a', '\x5C', '%', '_'] <:+: ['x', 'a', '\x5C', '%', '_', 'y'] ∧
    ¬ ['a', '\x5C', '%', '_'] <:+: ['x', 'a', '\x5C', '%', 'b', 'y'] ∧
    ¬ ['a', '\x5C', '%', '_'] <:+: ['x', 'a', '%', '_', 'y'] := by
  simp only [← Sql.matchesPattern_contains_iff Sql.Marks.ofText]
  decide

end QueryGate
