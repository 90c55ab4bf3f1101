import Mathlib.Data.List.Basic
import ProxyConfig.Files.RawPath
import ProxyConfig.Proofs.Text.Lossy

/-!
# Raw paths of texts

The path of a text is read as this text, and so is a path inside a folder whose path is a text.

Main results:

- `lossy_ofText`: reading the path of a text.
- `lossy_join_ofText`: reading a path inside such a folder.
- `ofText_lossy_iff`: the text that is read is that of another path if the path is none of a text.
-/

namespace ProxyConfig

namespace Text

theorem utf8Bytes_append (s t : String) : utf8Bytes (s ++ t) = utf8Bytes s ++ utf8Bytes t := by
  simp only [utf8Bytes_eq_flatMap, String.toList_append, List.flatMap_append]

theorem utf8Bytes_eq_nil_iff {s : String} : utf8Bytes s = [] ↔ s = "" := by
  constructor
  · intro h
    have hlossy := lossy_utf8Bytes s
    rw [h, lossy, decode] at hlossy
    exact hlossy.symm
  · rintro rfl
    rfl

theorem eq_of_ofNat_eq_slash {n : Nat} (hn : n < 256) (h : UInt8.ofNat n = 0x2F) : n = 0x2F := by
  have hbyte := congrArg UInt8.toNat h
  rwa [UInt8.toNat_ofNat_of_lt' hn] at hbyte

/-- Only the bytes of a slash end with that of a slash. -/
theorem getLast?_utf8EncodeChar_eq_slash_iff {c : Char} :
    (String.utf8EncodeChar c).getLast? = some 0x2F ↔ c = '/' := by
  constructor
  · intro h
    unfold String.utf8EncodeChar at h
    dsimp only at h
    split_ifs at h with hone htwo hthree
    · have hc := eq_of_ofNat_eq_slash (by omega) (Option.some.inj h)
      exact Char.toNat_inj.1 hc
    -- The last byte of a longer character is one that follows another.
    all_goals
      have hlast := eq_of_ofNat_eq_slash (by omega) (Option.some.inj h)
      omega
  · rintro rfl
    decide

theorem getLast?_utf8Bytes_eq_slash_iff {s : String} :
    (utf8Bytes s).getLast? = some 0x2F ↔ s.toList.getLast? = some '/' := by
  rcases List.eq_nil_or_concat s.toList with hs | ⟨front, c, hs⟩
  · rw [utf8Bytes_eq_flatMap, hs]
    simp
  · rw [utf8Bytes_eq_flatMap, hs, List.concat_eq_append, List.flatMap_append, List.flatMap_singleton,
      List.getLast?_append_of_ne_nil _ String.utf8EncodeChar_ne_nil, List.getLast?_concat,
      getLast?_utf8EncodeChar_eq_slash_iff, Option.some_inj]

end Text

namespace Files
namespace RawPath

/-- The path of a text is read as this text. -/
theorem lossy_ofText (path : String) : (ofText path).lossy = path :=
  Text.lossy_utf8Bytes path

/-- Paths inside a folder of a text are those of the texts put together. -/
theorem join_ofText (dir name : String) : (ofText dir).join name = ofText (Path.join dir name) := by
  unfold join Path.join
  simp only [ofText, Text.utf8Bytes_eq_nil_iff, Text.getLast?_utf8Bytes_eq_slash_iff]
  split_ifs
  · rfl
  · rw [Text.utf8Bytes_append dir]
  · rw [String.append_assoc, Text.utf8Bytes_append dir]

theorem lossy_join_ofText (dir name : String) :
    ((ofText dir).join name).lossy = Path.join dir name := by
  rw [join_ofText, lossy_ofText]

/-- What is read leads back to the path exactly if the path is that of a text. -/
theorem ofText_lossy_iff {path : RawPath} :
    ofText path.lossy = path ↔ ∃ text, path = ofText text := by
  constructor
  · intro h
    exact ⟨path.lossy, h.symm⟩
  · rintro ⟨text, rfl⟩
    rw [lossy_ofText]

/-- A byte that begins no character is replaced. -/
example : (RawPath.mk [0x64, 0xFF]).lossy = "d\uFFFD" := by
  decide +kernel

end RawPath
end Files
end ProxyConfig
