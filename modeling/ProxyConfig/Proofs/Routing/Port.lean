import ProxyConfig.Proofs.Text.Numeral
import ProxyConfig.Proofs.Text.Trim
import ProxyConfig.SingBox.Document

/-!
# The language of port values

White space around it aside, the value of a port rule is a number of 16 bits or two of them with a
colon between.  No text is both, and no other text is accepted.

Main results:

- `parse?_eq_single_iff`, `parse?_eq_range_iff`: which values denote a port and which a range.
- `parse?_eq_none_iff`: which values denote neither.
- `port_values_classified`: the rule of a port record, and that it tests nothing but the port.
-/

namespace ProxyConfig
namespace SingBox

open Text

/-- The text denotes a number of 16 bits. -/
def IsPort (s : List Char) : Prop :=
  ∃ n ≤ maxU16, IsNumeral s n

/-- The text denotes two numbers of 16 bits around a colon. -/
def IsPortPair (s : List Char) : Prop :=
  ∃ first last, s = first ++ ':' :: last ∧ IsPort first ∧ IsPort last

/-- The value of a port rule denotes a port or a range of ports. -/
def IsPortValue (text : String) : Prop :=
  IsPort (trimChars text.toList) ∨ IsPortPair (trimChars text.toList)

variable {s : List Char} {text : String}

theorem portNumber?_eq_some_iff {n : Nat} :
    portNumber? s = some n ↔ IsNumeral s n ∧ n ≤ maxU16 :=
  numeral?_eq_some_iff_isNumeral

theorem isSome_portNumber?_iff : (portNumber? s).isSome = true ↔ IsPort s := by
  rw [Option.isSome_iff_exists]
  simp only [portNumber?_eq_some_iff, IsPort]
  constructor
  · rintro ⟨n, hn, hbound⟩
    exact ⟨n, hbound, hn⟩
  · rintro ⟨n, hbound, hn⟩
    exact ⟨n, hn, hbound⟩

/-- A port is cut at its only colon, since there is none in a numeral. -/
theorem isPortRange_iff : isPortRange s = true ↔ IsPortPair s := by
  unfold isPortRange IsPortPair
  constructor
  · intro h
    split at h
    · rename_i first last hcut
      rw [Bool.and_eq_true, isSome_portNumber?_iff, isSome_portNumber?_iff] at h
      exact ⟨first, last, (cutAt_eq_some.1 hcut).1, h⟩
    · cases h
  · rintro ⟨first, last, hs, hfirst, hlast⟩
    obtain ⟨n, _, hn⟩ := id hfirst
    rw [cutAt_eq_some.2 ⟨hs, hn.colon_notMem⟩]
    simp only [Bool.and_eq_true, isSome_portNumber?_iff]
    exact ⟨hfirst, hlast⟩

theorem not_isPort_of_isPortPair (h : IsPortPair s) : ¬ IsPort s := by
  rintro ⟨n, _, hn⟩
  obtain ⟨first, last, rfl, _⟩ := h
  exact hn.colon_notMem (by simp)

theorem parse?_eq_single_iff {n : Nat} :
    PortValue.parse? text = some (.single n) ↔
      IsNumeral (trimChars text.toList) n ∧ n ≤ maxU16 := by
  rw [← portNumber?_eq_some_iff]
  cases hport : portNumber? (trimChars text.toList) with
  | some m => simp [PortValue.parse?, hport]
  | none =>
    simp only [PortValue.parse?, hport, reduceCtorEq, iff_false]
    split <;> simp

theorem parse?_eq_range_iff {range : String} :
    PortValue.parse? text = some (.range range) ↔
      IsPortPair (trimChars text.toList) ∧ trim text = range := by
  cases hport : portNumber? (trimChars text.toList) with
  | some m =>
    have hnot : ¬ IsPortPair (trimChars text.toList) := fun hpair =>
      not_isPort_of_isPortPair hpair (isSome_portNumber?_iff.1 (by rw [hport]; rfl))
    simp [PortValue.parse?, hport, hnot]
  | none =>
    by_cases hpair : IsPortPair (trimChars text.toList)
    · simp [PortValue.parse?, hport, isPortRange_iff.2 hpair, hpair, trim]
    · simp [PortValue.parse?, hport, mt isPortRange_iff.1 hpair, hpair]

theorem parse?_eq_none_iff : PortValue.parse? text = none ↔ ¬ IsPortValue text := by
  constructor
  · rintro hnone (⟨n, hbound, hn⟩ | hpair)
    · rw [parse?_eq_single_iff.2 ⟨hn, hbound⟩] at hnone
      cases hnone
    · rw [parse?_eq_range_iff.2 ⟨hpair, rfl⟩] at hnone
      cases hnone
  · intro hno
    cases hparse : PortValue.parse? text with
    | none => rfl
    | some value =>
      cases value with
      | single n =>
        obtain ⟨hn, hbound⟩ := parse?_eq_single_iff.1 hparse
        exact absurd (Or.inl ⟨n, hbound, hn⟩) hno
      | range r => exact absurd (Or.inr (parse?_eq_range_iff.1 hparse).1) hno

instance : DecidablePred IsPortValue := fun text =>
  decidable_of_iff ((PortValue.parse? text).isSome = true) (by
    rw [← not_iff_not, ← parse?_eq_none_iff, Bool.not_eq_true, Option.isSome_eq_false_iff,
      Option.isNone_iff_eq_none])

/-! ## Numbers out of range -/

/-- A larger number is no port. -/
theorem not_isPort_of_isNumeral {n : Nat} (hn : IsNumeral s n) (hlarge : maxU16 < n) :
    ¬ IsPort s := by
  rintro ⟨m, hbound, hm⟩
  rw [hn.unique hm] at hlarge
  exact absurd hbound (Nat.not_le.2 hlarge)

theorem IsPort.colon_notMem (h : IsPort s) : ':' ∉ s := by
  obtain ⟨n, _, hn⟩ := h
  exact hn.colon_notMem

/-- A pair of ports has no other colon at which it could be cut. -/
theorem isPort_of_isPortPair {first last : List Char} (h : IsPortPair (first ++ ':' :: last)) :
    IsPort first ∧ IsPort last := by
  obtain ⟨start, rest, hcut, hstart, hrest⟩ := h
  have hcount : ∀ a b : List Char,
      (a ++ ':' :: b).count ':' = a.count ':' + b.count ':' + 1 := by
    intro a b
    rw [List.count_append, List.count_cons_self]
    omega
  have hone := congrArg (List.count ':') hcut
  rw [hcount, hcount, List.count_eq_zero.2 hstart.colon_notMem,
    List.count_eq_zero.2 hrest.colon_notMem] at hone
  have hfirst : ':' ∉ first := List.count_eq_zero.1 (by omega)
  have hsame : some (first, last) = some (start, rest) := by
    rw [← cutAt_eq_some.2 ⟨rfl, hfirst⟩, ← cutAt_eq_some.2 ⟨rfl, hstart.colon_notMem⟩, hcut]
  cases hsame
  exact ⟨hstart, hrest⟩

/-! ## Rules of port records -/

section Records

variable {value outbound : String}

/-- A port record has a rule if its value denotes a port or a range of ports. -/
theorem ofRecord?_port (value outbound : String) :
    RouteRule.ofRecord? ⟨.port value, outbound⟩ =
      (PortValue.parse? value).map fun
        | .single n => .send (.port n) outbound
        | .range range => .send (.portRange range) outbound := by
  simp only [RouteRule.ofRecord?, Matcher.ofCriterion?, Option.map_map]
  congr 1
  funext port
  cases port <;> rfl

theorem ofRecord?_port_eq_single_iff {n : Nat} :
    RouteRule.ofRecord? ⟨.port value, outbound⟩ = some (.send (.port n) outbound) ↔
      IsNumeral (trimChars value.toList) n ∧ n ≤ maxU16 := by
  rw [← parse?_eq_single_iff, ofRecord?_port]
  cases PortValue.parse? value with
  | none => simp
  | some port => cases port <;> simp

theorem ofRecord?_port_eq_range_iff {range : String} :
    RouteRule.ofRecord? ⟨.port value, outbound⟩ = some (.send (.portRange range) outbound) ↔
      IsPortPair (trimChars value.toList) ∧ range = trim value := by
  rw [eq_comm (a := range), ← parse?_eq_range_iff, ofRecord?_port]
  cases PortValue.parse? value with
  | none => simp
  | some port => cases port <;> simp

theorem ofRecord?_port_eq_none_iff :
    RouteRule.ofRecord? ⟨.port value, outbound⟩ = none ↔ ¬ IsPortValue value := by
  rw [ofRecord?_port, Option.map_eq_none_iff, parse?_eq_none_iff]

/-- A rule of a port record is one of these two. -/
theorem eq_of_ofRecord?_port {rule : RouteRule}
    (h : RouteRule.ofRecord? ⟨.port value, outbound⟩ = some rule) :
    (∃ n, rule = .send (.port n) outbound) ∨ rule = .send (.portRange (trim value)) outbound := by
  rw [ofRecord?_port, Option.map_eq_some_iff] at h
  obtain ⟨port, hport, rfl⟩ := h
  cases port with
  | single n => exact Or.inl ⟨n, rfl⟩
  | range range => exact Or.inr (by rw [(parse?_eq_range_iff.1 hport).2])

/-- A port record has the rule of one port if its value, white space around it aside, is a numeral
up to 65535, the rule of a range if it is two such numerals around a colon, and else no rule.  It is
never both, and a number that is too large is not taken for another one.  The rule is written with
the port and the outbound of the record and nothing else. -/
theorem port_values_classified (value outbound : String) :
    ∃ inner, IsTrimmed value.toList inner ∧
      (∀ n, RouteRule.ofRecord? ⟨.port value, outbound⟩ = some (.send (.port n) outbound) ↔
        IsNumeral inner n ∧ n ≤ maxU16) ∧
      (∀ range, RouteRule.ofRecord? ⟨.port value, outbound⟩ =
          some (.send (.portRange range) outbound) ↔
        IsPortPair inner ∧ range = String.ofList inner) ∧
      (RouteRule.ofRecord? ⟨.port value, outbound⟩ = none ↔ ¬ IsPort inner ∧ ¬ IsPortPair inner) ∧
      ¬ (IsPort inner ∧ IsPortPair inner) ∧
      (∀ n, IsNumeral inner n → maxU16 < n →
        RouteRule.ofRecord? ⟨.port value, outbound⟩ = none) ∧
      (∀ first last n, inner = first ++ ':' :: last → IsNumeral first n ∨ IsNumeral last n →
        maxU16 < n → RouteRule.ofRecord? ⟨.port value, outbound⟩ = none) ∧
      ∀ rule, RouteRule.ofRecord? ⟨.port value, outbound⟩ = some rule →
        (∃ n, rule = .send (.port n) outbound ∧
          rule.toJson = .object [("port", .array [.ofNat n]), ("outbound", .string outbound)]) ∨
        (rule = .send (.portRange (String.ofList inner)) outbound ∧
          rule.toJson = .object [("port_range", Json.strings [String.ofList inner]),
            ("outbound", .string outbound)]) := by
  have hnone : RouteRule.ofRecord? ⟨.port value, outbound⟩ = none ↔
      ¬ IsPort (trimChars value.toList) ∧ ¬ IsPortPair (trimChars value.toList) := by
    rw [ofRecord?_port_eq_none_iff, IsPortValue, not_or]
  refine ⟨trimChars value.toList, isTrimmed_trimChars _, fun n => ofRecord?_port_eq_single_iff,
    fun range => ofRecord?_port_eq_range_iff, hnone, ?_, ?_, ?_, ?_⟩
  · rintro ⟨hport, hpair⟩
    exact not_isPort_of_isPortPair hpair hport
  · intro n hn hlarge
    refine hnone.2 ⟨not_isPort_of_isNumeral hn hlarge, ?_⟩
    -- A numeral has no colon.
    rintro ⟨first, last, hcut, _⟩
    exact hn.colon_notMem (by rw [hcut]; simp)
  · intro first last n hcut hn hlarge
    rw [hnone, hcut]
    constructor
    · intro hport
      exact hport.colon_notMem (by simp)
    · intro hpair
      obtain ⟨hfirst, hlast⟩ := isPort_of_isPortPair hpair
      rcases hn with hn | hn
      · exact not_isPort_of_isNumeral hn hlarge hfirst
      · exact not_isPort_of_isNumeral hn hlarge hlast
  · intro rule hrule
    rcases eq_of_ofRecord?_port hrule with ⟨n, rfl⟩ | rfl
    · exact Or.inl ⟨n, rfl, rfl⟩
    · exact Or.inr ⟨rfl, rfl⟩

end Records

end SingBox
end ProxyConfig
