import Mathlib.Tactic.SplitIfs
import ProxyConfig.Text.Lossy

/-!
# Texts that come back from their bytes

The bytes of a text are UTF-8, so nothing in them is replaced: the first character of the text is
read from the first of its bytes, and the rest from the others.

Main results:

- `firstChar_utf8EncodeChar`: the bytes of a character are read as this character.
- `lossy_utf8Bytes`: the bytes of a text are read as this text.
-/

namespace ProxyConfig
namespace Text

theorem complete_tail {code least greatest more n : Nat} {rest : List UInt8}
    (hleast : least ≤ n % 64 + 128) (hgreatest : n % 64 + 128 ≤ greatest) :
    complete code least greatest (more + 1) (UInt8.ofNat (n % 64 + 128) :: rest) =
      complete (code * 64 + n % 64) 0x80 0xBF more rest := by
  have hbyte : (UInt8.ofNat (n % 64 + 128)).toNat = n % 64 + 128 :=
    UInt8.toNat_ofNat_of_lt' (by rw [UInt8.size]; omega)
  rw [complete, hbyte, if_pos ⟨hleast, hgreatest⟩]
  congr 2
  omega

theorem lead?_two {n : Nat} (hlow : 0xC2 ≤ n) (hhigh : n < 0xE0) :
    lead? n = some ⟨n % 32, 1, 0x80, 0xBF⟩ := by
  rw [lead?, if_neg (by omega), if_neg (by omega), if_pos hhigh]

theorem lead?_three {n : Nat} (hlow : 0xE0 ≤ n) (hhigh : n < 0xF0) :
    lead? n = some ⟨n % 16, 2, if n = 0xE0 then 0xA0 else 0x80, if n = 0xED then 0x9F else 0xBF⟩ := by
  rw [lead?, if_neg (by omega), if_neg (by omega), if_neg (by omega), if_pos hhigh]

theorem lead?_four {n : Nat} (hlow : 0xF0 ≤ n) (hhigh : n < 0xF5) :
    lead? n = some ⟨n % 8, 3, if n = 0xF0 then 0x90 else 0x80, if n = 0xF4 then 0x8F else 0xBF⟩ := by
  rw [lead?, if_neg (by omega), if_neg (by omega), if_neg (by omega), if_neg (by omega),
    if_pos hhigh]

/-- The bytes of a character are read as this character. -/
theorem firstChar_utf8EncodeChar (c : Char) (rest : List UInt8) :
    ∃ byte after, String.utf8EncodeChar c ++ rest = byte :: after ∧
      firstChar byte after = (c, rest) := by
  have hvalid : c.val.toNat < 0xD800 ∨ 0xDFFF < c.val.toNat ∧ c.val.toNat < 0x110000 := c.valid
  have hfirst : ∀ {n : Nat} {after : List UInt8} {lead : Lead}, n < 256 → lead? n = some lead →
      complete lead.bits lead.least lead.greatest lead.more after = (some c.val.toNat, rest) →
      firstChar (UInt8.ofNat n) after = (c, rest) := by
    intro n after lead hn hlead hcomplete
    rw [firstChar, UInt8.toNat_ofNat_of_lt' hn, hlead]
    dsimp only
    rw [hcomplete]
    exact congrArg (·, rest) (Char.ofNat_toNat c)
  unfold String.utf8EncodeChar
  generalize c.val.toNat = v at hvalid hfirst ⊢
  dsimp only
  split_ifs with hone htwo hthree <;> simp only [List.cons_append, List.nil_append]
  · exact ⟨_, _, rfl, hfirst (by omega) (if_pos (by omega)) rfl⟩
  · refine ⟨_, _, rfl, hfirst (by omega) (lead?_two (by omega) (by omega)) ?_⟩
    dsimp only
    rw [complete_tail (by omega) (by omega), complete]
    congr 2
    omega
  · refine ⟨_, _, rfl, hfirst (by omega) (lead?_three (by omega) (by omega)) ?_⟩
    dsimp only
    rw [complete_tail (by split_ifs <;> omega) (by split_ifs <;> omega),
      complete_tail (by omega) (by omega), complete]
    congr 2
    omega
  · refine ⟨_, _, rfl, hfirst (by omega) (lead?_four (by omega) (by omega)) ?_⟩
    dsimp only
    rw [complete_tail (by split_ifs <;> omega) (by split_ifs <;> omega),
      complete_tail (by omega) (by omega), complete_tail (by omega) (by omega), complete]
    congr 2
    omega

theorem decode_utf8EncodeChar (c : Char) (rest : List UInt8) :
    decode (String.utf8EncodeChar c ++ rest) = c :: decode rest := by
  obtain ⟨byte, after, hbytes, hfirst⟩ := firstChar_utf8EncodeChar c rest
  rw [hbytes, decode, hfirst]

/-- The bytes of a text are read as this text. -/
theorem lossy_utf8Bytes (s : String) : lossy (utf8Bytes s) = s := by
  have hdecode : ∀ chars : List Char, decode (chars.flatMap String.utf8EncodeChar) = chars := by
    intro chars
    induction chars with
    | nil => rw [List.flatMap_nil, decode]
    | cons c rest ih => rw [List.flatMap_cons, decode_utf8EncodeChar, ih]
  rw [lossy, utf8Bytes_eq_flatMap, hdecode, String.ofList_toList]

end Text
end ProxyConfig
