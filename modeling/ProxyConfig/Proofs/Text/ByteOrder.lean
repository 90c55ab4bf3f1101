import Mathlib.Data.String.Basic
import Mathlib.Tactic.SplitIfs
import ProxyConfig.Text.Lossy

/-!
# The order of texts and of their bytes

The encoding of texts in bytes keeps their order: the first byte of a character tells how many bytes
it has, more bytes stand for a greater code point, and the bytes of equally long encodings hold the
digits of the code point, the most significant ones first.

Main results:

- `encode_append_lt_encode_append`: the first characters that differ decide.
- `utf8Bytes_lt_iff`: the order of the bytes is the order of the texts.
- `utf8Bytes_inj`: different texts have different bytes.
-/

namespace ProxyConfig
namespace Text

theorem utf8Bytes_inj {s t : String} : utf8Bytes s = utf8Bytes t ↔ s = t := by
  unfold utf8Bytes
  rw [String.toUTF8_eq_toByteArray, String.toUTF8_eq_toByteArray, Array.toList_inj,
    ← ByteArray.ext_iff, String.toByteArray_inj]

/-- The lesser of two characters has the lesser encoding, whatever follows. -/
theorem encode_append_lt_encode_append {c d : Char} (h : c.toNat < d.toNat) (x y : List UInt8) :
    String.utf8EncodeChar c ++ x < String.utf8EncodeChar d ++ y := by
  have hbound : d.toNat < 0x110000 := by
    have hvalid : d.toNat < 0xd800 ∨ 0xdfff < d.toNat ∧ d.toNat < 0x110000 := d.valid
    omega
  -- The digits to the base 64.
  have hsecond : ∀ n, n / 4096 = n / 64 / 64 := fun n => by omega
  have hthird : ∀ n, n / 262144 = n / 64 / 64 / 64 := fun n => by omega
  unfold Char.toNat at h hbound
  unfold String.utf8EncodeChar
  generalize c.val.toNat = m at *
  generalize d.val.toNat = n at *
  dsimp only
  -- Each of the two has one to four bytes.
  split_ifs <;>
    simp only [List.cons_append, List.nil_append, List.cons_lt_cons_iff, UInt8.lt_iff_toNat_lt,
      ← UInt8.toNat_inj, UInt8.toNat_ofNat', hsecond, hthird] <;>
    omega

theorem append_lt_append_left_iff {a x y : List UInt8} : a ++ x < a ++ y ↔ x < y := by
  induction a with
  | nil => rfl
  | cons b rest ih => simp [ih]

/-- Lists of characters are ordered like their bytes. -/
theorem flatMap_encode_lt_iff {s t : List Char} :
    s.flatMap String.utf8EncodeChar < t.flatMap String.utf8EncodeChar ↔ s < t := by
  induction s generalizing t with
  | nil =>
    cases t with
    | nil => simp
    | cons d t =>
      obtain ⟨b, rest, hd⟩ := List.exists_cons_of_ne_nil (String.utf8EncodeChar_ne_nil (c := d))
      simp [hd]
  | cons c s ih =>
    cases t with
    | nil => simp
    | cons d t =>
      rw [List.flatMap_cons, List.flatMap_cons, List.cons_lt_cons_iff]
      rcases lt_trichotomy c d with hlt | rfl | hgt
      · have hbytes := encode_append_lt_encode_append hlt (s.flatMap String.utf8EncodeChar)
          (t.flatMap String.utf8EncodeChar)
        simp only [hbytes, hlt, true_or]
      · rw [append_lt_append_left_iff, ih]
        simp
      · have hbytes := encode_append_lt_encode_append hgt (t.flatMap String.utf8EncodeChar)
          (s.flatMap String.utf8EncodeChar)
        simp only [List.lt_asymm hbytes, lt_asymm hgt, ne_of_gt hgt, false_and, or_false]

/-- Texts are ordered like their bytes. -/
theorem utf8Bytes_lt_iff {s t : String} : utf8Bytes s < utf8Bytes t ↔ s < t := by
  rw [utf8Bytes_eq_flatMap, utf8Bytes_eq_flatMap, flatMap_encode_lt_iff, String.lt_iff_toList_lt]

end Text
end ProxyConfig
