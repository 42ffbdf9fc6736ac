import QueryGate.Build.Existence

/-!
# Foreign keys as relations

A foreign key can be joined when it goes from one column to one column of a named table,
whatever schema, database or alias comes with the table. The relation that is made of it
calls its columns by the side that holds the key, and a join goes back from there to the
columns that are equal. The two turns cancel, whichever side owns the key: the join equates
the target column of the key in the related row with its source column in the parent's row
(`ofForeignKey?_joins`).
-/

set_option autoImplicit false

namespace QueryGate

/-- The key goes from one column to one column of a named table. -/
structure ForeignKey.Relates (key : ForeignKey) (table source target : String) : Prop where
  table : ∃ schema database called, key.target = .named table schema database called
  source : key.sourceColumns = .single source
  target : key.targetColumns = .single target

theorem TableReference.table?_eq_some_iff (reference : TableReference) (table : String) :
    reference.table? = some table ↔
      ∃ schema database called, reference = .named table schema database called := by
  constructor
  · intro named
    cases reference with
    | named held schema database called =>
        cases named
        exact ⟨schema, database, called, rfl⟩
    | _ => cases named
  · rintro ⟨_, _, _, rfl⟩
    rfl

theorem KeyColumns.single?_eq_some_iff (columns : KeyColumns) (column : String) :
    columns.single? = some column ↔ columns = .single column := by
  cases columns <;> simp [single?]

namespace Relation

/-- The relation of a key is that of its columns. -/
theorem ofForeignKey?_eq_some_iff (key : ForeignKey) (relation : Relation) :
    ofForeignKey? key = some relation ↔
      ∃ table source target, key.Relates table source target ∧
        ofColumns key.owner key.many table source target = relation := by
  simp only [ofForeignKey?, Option.bind_eq_bind, Option.bind_eq_some_iff, Option.pure_def,
    Option.some.injEq, TableReference.table?_eq_some_iff, KeyColumns.single?_eq_some_iff]
  constructor
  · rintro ⟨table, named, source, single, target, targetSingle, made⟩
    exact ⟨table, source, target, ⟨named, single, targetSingle⟩, made⟩
  · rintro ⟨table, source, target, relates, made⟩
    exact ⟨table, relates.table, source, relates.source, target, relates.target, made⟩

variable (owner many : Bool) (table source target : String)

theorem relatedTable?_ofColumns :
    (ofColumns owner many table source target).relatedTable? = some table := by
  cases owner <;> cases many <;> rfl

theorem isToMany_ofColumns :
    (ofColumns owner many table source target).isToMany = (owner && many) := by
  cases owner <;> cases many <;> rfl

/-- The join of the relation is by the columns that it was made of. -/
theorem joinKeys?_ofColumns :
    (ofColumns owner many table source target).joinKeys? =
      some { table, foreignKey := target, localKey := source } := by
  cases owner <;> cases many <;> rfl

/-- A foreign key makes a relation exactly when it goes from one column to one column of a
named table. The relation leads to this table, to many rows where the key is owned and has
many, and its join does nothing but equate the two columns of the key, each in the row that
it belongs to. -/
theorem ofForeignKey?_joins (key : ForeignKey) :
    ((ofForeignKey? key).isSome = true ↔
      ∃ table source target, key.Relates table source target) ∧
    ∀ table source target, key.Relates table source target →
      ∃ relation, ofForeignKey? key = some relation ∧
        relation.relatedTable? = some table ∧
        (relation.isToMany = true ↔ key.owner = true ∧ key.many = true) ∧
        ∃ keys, relation.joinKeys? = some keys ∧
          keys.table = table ∧ keys.pivot = none ∧ keys.morph = none ∧
          ∀ hopAlias parentAlias,
            keys.sources hopAlias = (⟨table, some hopAlias⟩, none) ∧
            keys.classCondition? hopAlias = none ∧
            keys.tie hopAlias parentAlias =
              columnsEqual ⟨hopAlias, target⟩ ⟨parentAlias, source⟩ := by
  constructor
  · rw [Option.isSome_iff_exists]
    constructor
    · rintro ⟨relation, made⟩
      obtain ⟨table, source, target, relates, _⟩ := (ofForeignKey?_eq_some_iff key relation).mp made
      exact ⟨table, source, target, relates⟩
    · rintro ⟨table, source, target, relates⟩
      exact ⟨_, (ofForeignKey?_eq_some_iff key _).mpr ⟨table, source, target, relates, rfl⟩⟩
  · intro table source target relates
    refine ⟨_, (ofForeignKey?_eq_some_iff key _).mpr ⟨table, source, target, relates, rfl⟩, ?_⟩
    refine ⟨relatedTable?_ofColumns .., ?_, _, joinKeys?_ofColumns .., rfl, rfl, rfl, ?_⟩
    · rw [isToMany_ofColumns, Bool.and_eq_true]
    · intro hopAlias parentAlias
      exact ⟨rfl, rfl, rfl⟩

end Relation

end QueryGate
