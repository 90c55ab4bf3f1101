/-!
# Texts and their bytes

A text has the bytes of its UTF-8 encoding.  But a text that comes from the system is a list of
bytes, which need not be UTF-8.  When it has to be a text nevertheless, every character in it is
kept, and the rest is replaced: a byte that starts no character, and the beginning of a character
that breaks off, become one replacement character each.
-/

namespace ProxyConfig
namespace Text

/-- The bytes of a text. -/
def utf8Bytes (s : String) : List UInt8 :=
  s.toUTF8.data.toList

theorem utf8Bytes_eq_flatMap (s : String) :
    utf8Bytes s = s.toList.flatMap String.utf8EncodeChar := by
  rw [utf8Bytes, String.toUTF8_eq_toByteArray, ← String.utf8Encode_toList, List.utf8Encode,
    List.data_toByteArray]

/-- What is announced by the first byte of a character. -/
structure Lead where
  /-- The part of the code point that the byte holds. -/
  bits : Nat
  /-- How many bytes follow. -/
  more : Nat
  /-- The least and the greatest byte that may come next. -/
  least : Nat
  greatest : Nat
deriving Repr, DecidableEq, Inhabited

/-- What a byte announces, if it can start a character. -/
def lead? (byte : Nat) : Option Lead :=
  if byte < 0x80 then some ⟨byte, 0, 0x80, 0xBF⟩
  else if byte < 0xC2 then none
  else if byte < 0xE0 then some ⟨byte % 32, 1, 0x80, 0xBF⟩
  else if byte < 0xF0 then
    -- No code point has a longer form than it needs, and none is a surrogate.
    some ⟨byte % 16, 2, if byte = 0xE0 then 0xA0 else 0x80, if byte = 0xED then 0x9F else 0xBF⟩
  else if byte < 0xF5 then
    some ⟨byte % 8, 3, if byte = 0xF0 then 0x90 else 0x80, if byte = 0xF4 then 0x8F else 0xBF⟩
  else none

/-- Complete a code point with the bytes that follow, as many as were announced.  It is lost when a
byte cannot come next; what begins with this byte is left. -/
def complete (code least greatest : Nat) : Nat → List UInt8 → Option Nat × List UInt8
  | 0, rest => (some code, rest)
  | _ + 1, [] => (none, [])
  | more + 1, byte :: rest =>
    if least ≤ byte.toNat ∧ byte.toNat ≤ greatest then
      complete (code * 64 + byte.toNat % 64) 0x80 0xBF more rest
    else (none, byte :: rest)

theorem length_complete (code least greatest more : Nat) (bytes : List UInt8) :
    (complete code least greatest more bytes).2.length ≤ bytes.length := by
  induction more generalizing code least greatest bytes with
  | zero => simp [complete]
  | succ more ih =>
    cases bytes with
    | nil => simp [complete]
    | cons byte rest =>
      unfold complete
      split
      · exact Nat.le_succ_of_le (ih ..)
      · exact Nat.le_refl _

/-- What stands for bytes that are no character. -/
def replacement : Char := Char.ofNat 0xFFFD

/-- The first character of bytes that are not empty, and the bytes after it. -/
def firstChar (byte : UInt8) (rest : List UInt8) : Char × List UInt8 :=
  match lead? byte.toNat with
  | none => (replacement, rest)
  | some lead =>
    let completed := complete lead.bits lead.least lead.greatest lead.more rest
    (completed.1.elim replacement Char.ofNat, completed.2)

theorem length_firstChar (byte : UInt8) (rest : List UInt8) :
    (firstChar byte rest).2.length ≤ rest.length := by
  unfold firstChar
  split
  · exact Nat.le_refl _
  · exact length_complete ..

/-- The characters of bytes. -/
def decode : List UInt8 → List Char
  | [] => []
  | byte :: rest => (firstChar byte rest).1 :: decode (firstChar byte rest).2
termination_by bytes => bytes.length
decreasing_by
  exact Nat.lt_succ_of_le (length_firstChar byte rest)

/-- Bytes as a text. -/
def lossy (bytes : List UInt8) : String :=
  String.ofList (decode bytes)

end Text
end ProxyConfig
