import Mathlib.Data.List.Basic
import Mathlib.Data.List.Lex
import Mathlib.Data.String.Basic

/-! The order of texts by their bytes. In UTF-8 it is the order by code points, in which names are
listed. -/
namespace EntitySearch

/-- The bytes of a text in UTF-8. -/
def utf8 (text : String) : List UInt8 :=
  text.toUTF8.data.toList

/-- The bytes of a text are those of its characters in order, without a terminator or a mark of the
encoding. -/
theorem utf8_eq_flatMap (text : String) :
    utf8 text = text.toList.flatMap String.utf8EncodeChar := by
  have hBytes : text.toUTF8 = (text.toList.flatMap String.utf8EncodeChar).toByteArray := by
    rw [← List.utf8Encode.eq_def]
    simp
  rw [utf8, hBytes, List.toList_data_toByteArray]

/-- A smaller code point has a smaller encoding in the lexicographic order, whatever bytes follow
either of them. Encodings of different lengths are included. -/
theorem utf8EncodeChar_append_lt {c d : Char} (h : c < d) (xs ys : List UInt8) :
    String.utf8EncodeChar c ++ xs < String.utf8EncodeChar d ++ ys := by
  have hCodes : c.val.toNat < d.val.toNat := h
  have hMax : d.val.toNat < 0x110000 := by
    have hValid : d.val.toNat < 0xD800 ∨ 0xDFFF < d.val.toNat ∧ d.val.toNat < 0x110000 := d.valid
    omega
  simp only [String.utf8EncodeChar]
  -- The first byte grows with the length. For one length, the bytes are digits to the base 64.
  split_ifs <;>
    simp only [List.cons_append, List.nil_append, List.cons_lt_cons_iff, UInt8.lt_iff_toNat_lt,
      ← UInt8.toNat_inj, UInt8.toNat_ofNat'] <;>
    simp (disch := omega) only [Nat.mod_eq_of_lt] <;>
    omega

/-- Encoding is strictly monotone on lists of characters: a common prefix has a common encoding,
after which one list ends or the next characters decide. -/
theorem flatMap_utf8EncodeChar_lt {cs ds : List Char} (h : cs < ds) :
    cs.flatMap String.utf8EncodeChar < ds.flatMap String.utf8EncodeChar := by
  induction h with
  | @nil d ds =>
      obtain ⟨byte, bytes, hFirst⟩ := List.exists_cons_of_ne_nil (@String.utf8EncodeChar_ne_nil d)
      rw [List.flatMap_cons, hFirst]
      exact List.nil_lt_cons byte _
  | rel hLess => exact utf8EncodeChar_append_lt hLess _ _
  | cons _ ih => exact List.append_left_lt ih

/-- Byte order and code point order of texts agree in both directions, so sorting by either gives
one result. -/
theorem utf8_lt_iff {first second : String} : utf8 first < utf8 second ↔ first < second := by
  have hMonotone : ∀ {less more : String}, less < more → utf8 less < utf8 more := by
    intro less more h
    rw [utf8_eq_flatMap, utf8_eq_flatMap]
    exact flatMap_utf8EncodeChar_lt (String.lt_iff_toList_lt.mp h)
  constructor
  · intro h
    rcases lt_trichotomy first second with hLess | rfl | hMore
    · exact hLess
    · exact absurd h (List.lt_irrefl _)
    · exact absurd (hMonotone hMore) (List.lt_asymm h)
  · exact hMonotone

end EntitySearch
