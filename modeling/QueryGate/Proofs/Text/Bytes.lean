import Mathlib.Data.List.Infix

/-!
# Texts as bytes

The bytes of a text are the UTF-8 bytes of its characters, one character after another.
A part occurs in a text exactly when the bytes of the part occur in those of the text
(`infix_bytes_iff`): the first byte of a character is never one of its later bytes, so
bytes that begin like a character begin where a character begins.
-/

set_option autoImplicit false

namespace QueryGate.Text

/-- The UTF-8 bytes of a text. -/
def bytes (text : List Char) : List UInt8 :=
  text.flatMap String.utf8EncodeChar

@[simp]
theorem bytes_nil : bytes [] = [] := rfl

@[simp]
theorem bytes_cons (character : Char) (text : List Char) :
    bytes (character :: text) = String.utf8EncodeChar character ++ bytes text := rfl

@[simp]
theorem bytes_append (before after : List Char) :
    bytes (before ++ after) = bytes before ++ bytes after :=
  List.flatMap_append

/-! ## Where characters begin -/

/-- The byte that a character begins with begins characters. -/
theorem exists_firstByte (character : Char) :
    ∃ first later, String.utf8EncodeChar character = first :: later ∧ first.IsUTF8FirstByte := by
  obtain ⟨first, later, encoded⟩ :=
    List.exists_cons_of_ne_nil (String.utf8EncodeChar_ne_nil (c := character))
  have begins := UInt8.isUTF8FirstByte_getElem_zero_utf8EncodeChar (c := character)
  simp only [encoded, List.getElem_cons_zero] at begins
  exact ⟨first, later, encoded, begins⟩

/-- Bytes that go on as a character from a byte that begins one on go on at the front of
the character, or behind it. -/
theorem firstByte_apart {character : Char} {skipped rest later : List UInt8} {first : UInt8}
    (begins : first.IsUTF8FirstByte)
    (cut : String.utf8EncodeChar character ++ rest = skipped ++ first :: later) :
    skipped = [] ∨ String.utf8EncodeChar character <+: skipped := by
  by_cases within : skipped.length < (String.utf8EncodeChar character).length
  · left
    have here : (String.utf8EncodeChar character)[skipped.length] = first := by
      have both := congrArg (fun all => all[skipped.length]?) cut
      simpa [List.getElem?_append_left within, List.getElem?_eq_getElem within] using both
    rw [← here, UInt8.isUTF8FirstByte_getElem_utf8EncodeChar] at begins
    exact List.length_eq_zero_iff.mp begins
  · right
    exact List.prefix_of_prefix_length_le (List.prefix_append _ rest)
      (cut ▸ List.prefix_append skipped _) (Nat.le_of_not_lt within)

/-- Bytes that begin like two characters begin like one. -/
theorem utf8EncodeChar_append_inj {one other : Char} {rest later : List UInt8}
    (same : String.utf8EncodeChar one ++ rest = String.utf8EncodeChar other ++ later) :
    one = other ∧ rest = later := by
  have decoded (character : Char) (rest : List UInt8) :
      (String.utf8EncodeChar character ++ rest).toByteArray.utf8DecodeChar? 0 = some character := by
    rw [List.toByteArray_append]
    exact ByteArray.utf8DecodeChar?_utf8EncodeChar_append
  have chars := (decoded one rest).symm.trans (same ▸ decoded other later)
  cases chars
  exact ⟨rfl, List.append_cancel_left same⟩

/-- A byte below 128 is a whole character. -/
theorem toNat_eq_of_mem_utf8EncodeChar {character : Char} {byte : UInt8}
    (member : byte ∈ String.utf8EncodeChar character) (single : byte.toNat < 128) :
    character.toNat = byte.toNat ∧ String.utf8EncodeChar character = [byte] := by
  unfold String.utf8EncodeChar at member ⊢
  dsimp only at member ⊢
  split at member
  · next small =>
      rw [if_pos small, List.mem_singleton.mp member, UInt8.toNat_ofNat']
      have fits : character.val.toNat < 2 ^ 8 := by omega
      exact ⟨(Nat.mod_eq_of_lt fits).symm, rfl⟩
  · exfalso
    split at member
    · simp only [List.mem_cons, List.not_mem_nil, or_false] at member
      rcases member with rfl | rfl <;> rw [UInt8.toNat_ofNat'] at single <;> omega
    · split at member
      · simp only [List.mem_cons, List.not_mem_nil, or_false] at member
        rcases member with rfl | rfl | rfl <;> rw [UInt8.toNat_ofNat'] at single <;> omega
      · simp only [List.mem_cons, List.not_mem_nil, or_false] at member
        rcases member with rfl | rfl | rfl | rfl <;> rw [UInt8.toNat_ofNat'] at single <;> omega

/-! ## Parts -/

theorem prefix_bytes_iff (part text : List Char) : bytes part <+: bytes text ↔ part <+: text := by
  induction part generalizing text with
  | nil => simp
  | cons character part ih =>
      constructor
      · rintro ⟨later, begun⟩
        cases text with
        | nil =>
            rw [bytes_cons, List.append_assoc] at begun
            exact absurd (List.append_eq_nil_iff.mp begun).1 String.utf8EncodeChar_ne_nil
        | cons first text =>
            rw [bytes_cons, bytes_cons, List.append_assoc] at begun
            obtain ⟨rfl, rest⟩ := utf8EncodeChar_append_inj begun
            exact List.cons_prefix_cons.mpr ⟨rfl, (ih text).mp ⟨later, rest⟩⟩
      · rintro ⟨later, rfl⟩
        exact ⟨bytes later, (bytes_append _ _).symm⟩

/-- A part occurs in a text exactly when its bytes occur in the bytes of the text. -/
theorem infix_bytes_iff (part text : List Char) :
    bytes part <:+: bytes text ↔ part <:+: text := by
  constructor
  · cases part with
    | nil => exact fun _ => List.nil_infix
    | cons character part =>
        obtain ⟨first, later, encoded, begins⟩ := exists_firstByte character
        rintro ⟨skipped, rest, found⟩
        induction text generalizing skipped with
        | nil =>
            rw [bytes_nil, List.append_eq_nil_iff, List.append_eq_nil_iff, bytes_cons,
              List.append_eq_nil_iff] at found
            exact absurd found.1.2.1 String.utf8EncodeChar_ne_nil
        | cons other text ih =>
            have cut : String.utf8EncodeChar other ++ bytes text =
                skipped ++ first :: (later ++ bytes part ++ rest) := by
              rw [← bytes_cons, ← found, bytes_cons, encoded]
              simp
            rcases firstByte_apart begins cut with rfl | ⟨skipped, rfl⟩
            · exact ((prefix_bytes_iff _ _).mp ⟨rest, found⟩).isInfix
            · have behind : skipped ++ bytes (character :: part) ++ rest = bytes text := by
                apply @List.append_cancel_left _ (String.utf8EncodeChar other)
                rw [← bytes_cons, ← found]
                simp only [List.append_assoc]
              exact List.infix_cons (ih skipped behind)
  · rintro ⟨before, after, rfl⟩
    exact ⟨bytes before, bytes after, by simp⟩

end QueryGate.Text
