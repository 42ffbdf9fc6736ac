import Mathlib.Algebra.Group.Nat.Defs
import QueryGate.Page
import QueryGate.Proofs.Json.Integers

/-!
# Pages tile the rows

A page is counted from one, its size stays within the greatest one, and its offset is the number
of rows on the pages before it, or the greatest word where there are more (`Page.Fits`).

The numbers that a client can ask for are the positive signed words. Under one request for a
size, the pages of these numbers tile the rows: two of them have no row in common, and up to the
last row that has a page every row is on one. Only the pages so far out that their offset is the
greatest word lie on one another, and the rows before that word are on none of them
(`pages_tile`).
-/

set_option autoImplicit false

namespace QueryGate.Page

/-! ## Numbers -/

/-- A positive signed word is read as the same number. -/
theorem positive?_eq_some_iff (value : Int64) (number : UInt64) :
    positive? value = some number ↔ 0 < value.toInt ∧ (number.toNat : Int) = value.toInt := by
  have zero : (0 : Int64) < value ↔ 0 < value.toInt := Int64.lt_iff_toInt_lt
  have word : value.toInt = value.toBitVec.toInt := (Int64.toInt_toBitVec value).symm
  have same : value.toUInt64.toNat = value.toBitVec.toNat := by
    rw [← UInt64.toNat_toBitVec, Int64.toBitVec_toUInt64]
  rw [BitVec.toInt_eq_toNat_cond] at word
  unfold positive?
  by_cases positive : 0 < value.toInt
  · have equal : (value.toUInt64.toNat : Int) = value.toInt := by
      have below := value.toBitVec.isLt
      rw [same]
      split at word <;> omega
    rw [if_pos (zero.mpr positive), Option.some_inj]
    constructor
    · rintro rfl
      exact ⟨positive, equal⟩
    · rintro ⟨_, number'⟩
      exact UInt64.toNat_inj.mp (by omega)
  · rw [if_neg (mt zero.mp positive)]
    exact iff_of_false (Option.some_ne_none number).symm fun both => positive both.1

/-- The number of a page is a positive signed word. -/
theorem number_resolve (limit number : Option Int64) (defaultLimit : UInt64)
    (maxLimit : Option UInt64) :
    1 ≤ (resolve limit number defaultLimit maxLimit).number.toNat ∧
      (resolve limit number defaultLimit maxLimit).number.toNat < 2 ^ 63 := by
  have first : (1 : UInt64).toNat = 1 := rfl
  unfold resolve
  dsimp only
  cases asked : number.bind positive? with
  | none =>
      rw [Option.getD_none, first]
      omega
  | some word =>
      obtain ⟨value, _, read⟩ := Option.bind_eq_some_iff.mp asked
      obtain ⟨positive, same⟩ := (positive?_eq_some_iff value word).mp read
      have below := value.toInt_lt
      rw [Option.getD_some]
      omega

/-- Every positive signed word is the number of some request. -/
theorem exists_positive? {number : UInt64} (positive : 1 ≤ number.toNat)
    (below : number.toNat < 2 ^ 63) :
    ∃ value, Number.int64? number.toNat = some value ∧ positive? value = some number := by
  obtain ⟨value, read, same⟩ :=
    @Number.exists_int64 (number.toNat : Int) (by omega) (by omega)
  exact ⟨value, read, (positive?_eq_some_iff value number).mpr ⟨by omega, same.symm⟩⟩

/-! ## Bounds -/

/-- The product of two words is exact, or the greatest word where it is no smaller. -/
theorem toNat_saturatingProduct (left right : UInt64) :
    (saturatingProduct left right).toNat = min (left.toNat * right.toNat) (2 ^ 64 - 1) := by
  have size : UInt64.size = 2 ^ 64 := rfl
  unfold saturatingProduct
  split
  · next fits =>
      rw [UInt64.toNat_mul, Nat.mod_eq_of_lt fits]
      omega
  · next beyond =>
      have greatest : (UInt64.ofNat (UInt64.size - 1)).toNat = 2 ^ 64 - 1 := by decide
      rw [greatest]
      omega

/-- The page is counted from one, its size stays within the greatest one, and its offset is the
number of rows on the pages before it, or the greatest word where there are more. -/
structure Fits (page : Page) (maxLimit : Option UInt64) : Prop where
  counted : 1 ≤ page.number.toNat
  bounded : ∀ greatest, maxLimit = some greatest → page.limit.toNat ≤ greatest.toNat
  offset : page.offset.toNat = min ((page.number.toNat - 1) * page.limit.toNat) (2 ^ 64 - 1)

/-- The offset of a page that is counted from one is the number of rows on the pages before it,
or the greatest word. -/
theorem toNat_offset {page : Page} (counted : 1 ≤ page.number.toNat) :
    page.offset.toNat = min ((page.number.toNat - 1) * page.limit.toNat) (2 ^ 64 - 1) := by
  have least : (1 : UInt64) ≤ page.number := UInt64.le_iff_toNat_le.mpr counted
  rw [Page.offset, toNat_saturatingProduct, UInt64.toNat_sub_of_le _ _ least]
  rfl

theorem fits_resolve (limit number : Option Int64) (defaultLimit : UInt64)
    (maxLimit : Option UInt64) :
    (resolve limit number defaultLimit maxLimit).Fits maxLimit := by
  have counted := (number_resolve limit number defaultLimit maxLimit).1
  refine ⟨counted, ?_, toNat_offset counted⟩
  rintro greatest rfl
  unfold resolve
  rw [UInt64.toNat_min]
  exact Nat.min_le_right _ _

/-! ## Rows -/

/-- The row of an index is on the page. -/
def Holds (page : Page) (row : Nat) : Prop :=
  page.offset.toNat ≤ row ∧ row < page.offset.toNat + page.limit.toNat

/-- A row before the greatest word tells the number of the page that it is on. -/
theorem holds_iff {page : Page} (counted : 1 ≤ page.number.toNat) (sized : 1 ≤ page.limit.toNat)
    {row : Nat} (before : row < 2 ^ 64 - 1) :
    page.Holds row ↔ page.number.toNat = row / page.limit.toNat + 1 := by
  have earlier : page.number.toNat = row / page.limit.toNat + 1 ↔
      row / page.limit.toNat = page.number.toNat - 1 := by
    omega
  rw [earlier, Nat.div_eq_iff sized, Holds, toNat_offset counted]
  generalize (page.number.toNat - 1) * page.limit.toNat = rows
  omega

/-- The pages that requests ask for tile the rows. Their numbers are the positive signed words;
no row before the greatest word is on two of them; and each row up to the last one that the
greatest number can reach is on one. -/
structure Tile {Request : Type} (page : Request → Page) : Prop where
  numbers : ∀ number : UInt64, (∃ request, (page request).number = number) ↔
    1 ≤ number.toNat ∧ number.toNat < 2 ^ 63
  apart : ∀ first second, (page first).number ≠ (page second).number →
    ∀ row < 2 ^ 64 - 1, ¬ ((page first).Holds row ∧ (page second).Holds row)
  covered : ∀ row ≤ 2 ^ 63 - 2,
    ∃! number, ∃ request, (page request).number = number ∧ (page request).Holds row

/-- Pages of one size whose numbers are the positive signed words tile the rows. -/
theorem tile_of_limit {Request : Type} {page : Request → Page} {limit : UInt64}
    (sized : 1 ≤ limit.toNat) (limited : ∀ request, (page request).limit = limit)
    (numbers : ∀ number : UInt64, (∃ request, (page request).number = number) ↔
      1 ≤ number.toNat ∧ number.toNat < 2 ^ 63) :
    Tile page := by
  have holds (request : Request) {row : Nat} (before : row < 2 ^ 64 - 1) :
      (page request).Holds row ↔ (page request).number.toNat = row / limit.toNat + 1 := by
    have counted := ((numbers _).mp ⟨request, rfl⟩).1
    rw [← limited request] at sized ⊢
    exact holds_iff counted sized before
  refine ⟨numbers, ?_, ?_⟩
  · intro first second other row before
    rw [holds first before, holds second before]
    rintro ⟨here, there⟩
    exact other (UInt64.toNat_inj.mp (here.trans there.symm))
  · intro row within
    have before : row < 2 ^ 64 - 1 := by omega
    have on (request : Request) := holds request before
    have reached : row / limit.toNat ≤ row := Nat.div_le_self _ _
    generalize row / limit.toNat = earlier at on reached
    have word : (UInt64.ofNat (earlier + 1)).toNat = earlier + 1 :=
      UInt64.toNat_ofNat_of_lt' (Nat.lt_of_lt_of_le (by omega : earlier + 1 < 2 ^ 63) (by decide))
    obtain ⟨request, asked⟩ := (numbers (UInt64.ofNat (earlier + 1))).mpr (by omega)
    refine ⟨UInt64.ofNat (earlier + 1), ⟨request, asked, ?_⟩, ?_⟩
    · rw [on, asked, word]
    · rintro number ⟨other, rfl, holds⟩
      exact UInt64.toNat_inj.mp (((on other).mp holds).trans word.symm)

/-! ## Requests -/

/-- The bodies that ask for the same page size as another one. -/
abbrev SameLimit (body : Json) : Type :=
  { other : Json // other.field? "limit" = body.field? "limit" }

/-- A body can ask for any page in the size of another one. -/
theorem exists_sameLimit (body number : Json) :
    ∃ other : Json, other.field? "limit" = body.field? "limit" ∧
      other.field? "page" = some number := by
  refine ⟨.object (("page", number) :: (body.field? "limit").toList.map fun limit =>
    ("limit", limit)), ?_, rfl⟩
  cases body.field? "limit" with
  | none => rfl
  | some limit => rfl

/-- Pages are counted from one and within their bounds, whether words or the values of a body ask
for them. Under one request for a size, by a word or by a body, the pages that can be asked for
tile the rows, if the size is not zero. -/
theorem pages_tile (defaultLimit : UInt64) (maxLimit : Option UInt64) :
    (∀ limit number, (resolve limit number defaultLimit maxLimit).Fits maxLimit) ∧
      (∀ body, (ofRequest body defaultLimit maxLimit).Fits maxLimit) ∧
      (∀ limit, 1 ≤ (resolve limit none defaultLimit maxLimit).limit.toNat →
        Tile fun number => resolve limit number defaultLimit maxLimit) ∧
      (∀ body, 1 ≤ (ofRequest body defaultLimit maxLimit).limit.toNat →
        Tile fun other : SameLimit body => ofRequest other.1 defaultLimit maxLimit) := by
  refine ⟨?_, ?_, ?_, ?_⟩
  · intro limit number
    exact fits_resolve limit number defaultLimit maxLimit
  · intro body
    exact fits_resolve _ _ defaultLimit maxLimit
  · intro limit sized
    refine tile_of_limit sized (fun _ => rfl) fun number => ⟨?_, ?_⟩
    · rintro ⟨request, rfl⟩
      exact number_resolve limit request defaultLimit maxLimit
    · rintro ⟨positive, below⟩
      obtain ⟨value, _, read⟩ := exists_positive? positive below
      refine ⟨some value, ?_⟩
      unfold resolve
      rw [Option.bind_some, read, Option.getD_some]
  · intro body sized
    refine tile_of_limit sized ?_ fun number => ⟨?_, ?_⟩
    · rintro ⟨other, same⟩
      unfold ofRequest resolve
      rw [same]
    · rintro ⟨other, rfl⟩
      exact number_resolve _ _ defaultLimit maxLimit
    · rintro ⟨positive, below⟩
      obtain ⟨value, word, read⟩ := exists_positive? positive below
      obtain ⟨other, sameLimit, page⟩ := exists_sameLimit body (.int number.toNat)
      refine ⟨⟨other, sameLimit⟩, ?_⟩
      unfold ofRequest resolve
      rw [page, Option.bind_some, requested?, word, Option.bind_some, read, Option.getD_some]

/-- In pages of one row, the greatest number that a client can ask for is that of the last row
that has a page, also where the size is asked for by a text in a body. -/
theorem pages_tile_singleRows :
    1 ≤ (resolve (some 1) none 15 (some 100)).limit.toNat ∧
      (∃! number, ∃ request, (resolve (some 1) request 15 (some 100)).number = number ∧
        (resolve (some 1) request 15 (some 100)).Holds (2 ^ 63 - 2)) ∧
      1 ≤ (ofRequest (.object [("limit", .text " +1 ")]) 15 none).limit.toNat ∧
      ∃! number, ∃ other : SameLimit (.object [("limit", .text " +1 ")]),
        (ofRequest other.1 15 none).number = number ∧
          (ofRequest other.1 15 none).Holds (2 ^ 63 - 2) := by
  obtain ⟨_, _, words, _⟩ := pages_tile 15 (some 100)
  obtain ⟨_, _, _, bodies⟩ := pages_tile 15 none
  have one : 1 ≤ (resolve (some 1) none 15 (some 100)).limit.toNat := by decide
  have spelled : 1 ≤ (ofRequest (.object [("limit", .text " +1 ")]) 15 none).limit.toNat := by
    decide +kernel
  exact ⟨one, (words (some 1) one).covered _ (Nat.le_refl _), spelled,
    (bodies _ spelled).covered _ (Nat.le_refl _)⟩

end QueryGate.Page
