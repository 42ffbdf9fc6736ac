/-!
# Entries sorted by key

A finite map with text keys is a list of entries in increasing order of the
keys, each key once. Looking a key up is `List.lookup`; inserting puts an entry
at its place in the order, or replaces the one with the same key.
-/

set_option autoImplicit false

namespace QueryGate

/-- Entries under text keys. -/
abbrev Keyed (α : Type) := List (String × α)

namespace Keyed

variable {α : Type}

/-- The entries with `value` under `key`, in place of what stood there. -/
def insert (key : String) (value : α) : Keyed α → Keyed α
  | [] => [(key, value)]
  | entry :: rest =>
      if key < entry.1 then (key, value) :: entry :: rest
      else if key = entry.1 then (key, value) :: rest
      else entry :: insert key value rest

/-- The keys, in order. -/
def keys (entries : Keyed α) : List String :=
  entries.map Prod.fst

/-- The inserted key has the inserted value. -/
theorem lookup_insert_self (key : String) (value : α) (entries : Keyed α) :
    (insert key value entries).lookup key = some value := by
  induction entries with
  | nil => simp [insert]
  | cons entry rest ih =>
    obtain ⟨name, held⟩ := entry
    simp only [insert]
    split
    · simp
    · split
      · simp
      · rename_i different
        simp [List.lookup_cons, beq_eq_false_iff_ne.mpr different, ih]

/-- The other keys keep their values. -/
theorem lookup_insert_of_ne (key other : String) (different : other ≠ key) (value : α)
    (entries : Keyed α) : (insert key value entries).lookup other = entries.lookup other := by
  have unequal : (other == key) = false := by simpa using different
  induction entries with
  | nil => simp [insert, List.lookup_cons, unequal]
  | cons entry rest ih =>
    obtain ⟨name, held⟩ := entry
    simp only [insert]
    split
    · simp [List.lookup_cons, unequal]
    · split
      · rename_i same
        subst same
        simp [List.lookup_cons, unequal]
      · simp [List.lookup_cons, ih]

end Keyed

end QueryGate
