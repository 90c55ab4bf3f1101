import ProxyConfig.Node.EarlyData
import ProxyConfig.Proofs.Text.Cut
import ProxyConfig.Proofs.Text.Numeral

/-!
# Taking early data out of websocket paths

A limit of early data stands in the query of a path as one pair among others.  The first pair of
its name decides, and a name may be written with escapes.  If the pair has a positive number of 32
bits, the whole query is taken off; otherwise the path stays as it is, whatever its query says.

Main results:

- `ofQuery?_intercalate`: the limit of a query that is put together from pairs.
- `normalize_cases`: what may become of a path.
- `early_data_taken_from_path`: what was written is taken out again, and nothing else is.
-/

namespace ProxyConfig

namespace EarlyData
open Text

variable {s query : List Char} {limit : Nat} {c : Char}

theorem key_eq : key = formBytes ['e', 'd'] := by decide +kernel

/-- Only a percent sign or a plus sign stands for something else. -/
theorem formBytes_cons (hpercent : c ≠ '%') (hplus : c ≠ '+') (rest : List Char) :
    formBytes (c :: rest) = String.utf8EncodeChar c ++ formBytes rest := by
  rw [formBytes]
  · intro _ _ _ h
    exact absurd h hpercent
  · exact hplus

/-- A digit stands for itself. -/
theorem map_formBytes_cons_digit (hc : IsDigit c) (rest : List Char) :
    (formBytes (c :: rest)).map (fun b => Char.ofNat b.toNat) =
      c :: (formBytes rest).map fun b => Char.ofNat b.toNat := by
  obtain ⟨hlow, hhigh⟩ := hc
  have hbyte : c.toNat ≤ 57 := hhigh
  have hpercent : c ≠ '%' := by rintro rfl; exact absurd hlow (by decide)
  have hplus : c ≠ '+' := by rintro rfl; exact absurd hlow (by decide)
  have hone : String.utf8EncodeChar c = [c.val.toUInt8] := by
    apply String.utf8EncodeChar_eq_singleton
    rw [Char.utf8Size_eq_one_iff, UInt32.le_iff_toNat_le]
    exact hbyte.trans (by decide)
  have hback : Char.ofNat c.val.toUInt8.toNat = c := by
    have hval : c.val.toNat % 2 ^ 8 = c.toNat := Nat.mod_eq_of_lt (hbyte.trans_lt (by decide))
    rw [UInt32.toNat_toUInt8, hval, Char.ofNat_toNat]
  rw [formBytes_cons hpercent hplus, hone, List.singleton_append, List.map_cons, hback]

/-- Digits stand for themselves. -/
theorem map_formBytes_of_digits (h : ∀ c ∈ s, IsDigit c) :
    (formBytes s).map (fun b => Char.ofNat b.toNat) = s := by
  induction s with
  | nil => rfl
  | cons c rest ih =>
    rw [List.forall_mem_cons] at h
    rw [map_formBytes_cons_digit h.1, ih h.2]

/-- What a limit is. -/
theorem limit?_eq_some_iff {value : List UInt8} :
    limit? value = some limit ↔
      IsNumeral (value.map fun b => Char.ofNat b.toNat) limit ∧ limit ≤ maxU32 ∧ 0 < limit := by
  rw [limit?, Option.filter_eq_some_iff, numeral?_eq_some_iff_isNumeral, decide_eq_true_iff,
    and_assoc]

/-- A query carries a limit between 1 and the largest 32-bit number, if any. -/
theorem bounds_of_ofQuery? (h : ofQuery? query = some limit) : 1 ≤ limit ∧ limit ≤ maxU32 := by
  obtain ⟨pair, _, hlimit⟩ := Option.bind_eq_some_iff.1 h
  obtain ⟨_, hbound, hpos⟩ := limit?_eq_some_iff.1 hlimit
  exact ⟨hpos, hbound⟩

/-- The pair that gives a limit. -/
def limitPair (limit : Nat) : List Char :=
  "ed=".toList ++ Nat.toDigits 10 limit

theorem formPair_limitPair (limit : Nat) :
    formPair (limitPair limit) = (key, formBytes (Nat.toDigits 10 limit)) := by
  have hcut : cutAt '=' (limitPair limit) = some (['e', 'd'], Nat.toDigits 10 limit) :=
    cutAt_eq_some.2 ⟨rfl, by decide⟩
  rw [formPair, hcut, key_eq]

theorem ampersand_notMem_limitPair (limit : Nat) : '&' ∉ limitPair limit := by
  intro h
  rcases List.mem_append.1 h with h | h
  · exact absurd h (by decide)
  · exact absurd (isDigit_of_mem_toDigits h).1 (by decide)

/-- A further pair of a query: one that is not about early data. -/
def IsOther (pair : List Char) : Prop :=
  '&' ∉ pair ∧ (formPair pair).1 ≠ key

instance (pair : List Char) : Decidable (IsOther pair) :=
  inferInstanceAs (Decidable ('&' ∉ pair ∧ (formPair pair).1 ≠ key))

/-- The pairs of a query that is put together from pairs; empty ones are left out. -/
theorem formPairs_intercalate {before : List (List Char)} (hbefore : ∀ pair ∈ before, '&' ∉ pair)
    (limit : Nat) (after : List (List Char)) :
    ∃ others, formPairs (['&'].intercalate (before ++ limitPair limit :: after)) =
      (before.filter (!·.isEmpty)).map formPair ++ formPair (limitPair limit) :: others := by
  have hpieces : pieces '&' (['&'].intercalate (before ++ limitPair limit :: after)) =
      before ++ limitPair limit :: after.flatMap (pieces '&') := by
    rw [pieces_intercalate '&' (by simp), List.flatMap_append, List.flatMap_cons,
      flatMap_pieces_of_notMem hbefore, pieces_of_not_mem (ampersand_notMem_limitPair limit),
      List.singleton_append]
  rw [formPairs, hpieces, List.filter_append, List.map_append, List.filter_cons_of_pos rfl,
    List.map_cons]
  exact ⟨_, rfl⟩

/-- The limit of a query that is put together from a pair that gives it, others before it and
anything after it. -/
theorem ofQuery?_intercalate {before after : List (List Char)}
    (hbefore : ∀ pair ∈ before, IsOther pair) (hpos : 1 ≤ limit) (hbound : limit ≤ maxU32) :
    ofQuery? (['&'].intercalate (before ++ limitPair limit :: after)) = some limit := by
  obtain ⟨others, hpairs⟩ := formPairs_intercalate (fun pair h => (hbefore pair h).1) limit after
  have hnone : ((before.filter (!·.isEmpty)).map formPair).find? (·.1 == key) = none := by
    rw [List.find?_eq_none]
    intro p hp
    obtain ⟨pair, hpair, rfl⟩ := List.mem_map.1 hp
    simpa using (hbefore pair (List.mem_filter.1 hpair).1).2
  have hfirst : (formPair (limitPair limit) :: others).find? (·.1 == key) =
      some (formPair (limitPair limit)) :=
    List.find?_cons_of_pos (by rw [formPair_limitPair, beq_self_eq_true])
  rw [ofQuery?, hpairs, List.find?_append, hnone, Option.none_or, hfirst, Option.bind_some,
    formPair_limitPair, limit?_eq_some_iff,
    map_formBytes_of_digits fun c => isDigit_of_mem_toDigits]
  exact ⟨isNumeral_toDigits limit, hbound, hpos⟩

end EarlyData

namespace WebSocketPath

open EarlyData

variable {raw path : String} {query : List Char} {limit : Nat}

theorem normalize_of_limit (hraw : raw.toList = path.toList ++ '?' :: query)
    (hpath : '?' ∉ path.toList) (hlimit : ofQuery? query = some limit) :
    normalize raw = ⟨if path = "" then "/" else path, some limit⟩ := by
  rw [normalize, Text.cutAt_eq_some.2 ⟨hraw, hpath⟩]
  simp [hlimit]

theorem normalize_of_notMem (h : '?' ∉ raw.toList) : normalize raw = ⟨raw, none⟩ := by
  rw [normalize, Text.cutAt_eq_none.2 h]

/-- A path is left as it is, or the part before its query stays and a limit is taken from it. -/
theorem normalize_cases (raw : String) :
    normalize raw = ⟨raw, none⟩ ∨
    ∃ (path : String) (query : List Char) (limit : Nat),
      raw.toList = path.toList ++ '?' :: query ∧ '?' ∉ path.toList ∧
      ofQuery? query = some limit ∧
      normalize raw = ⟨if path = "" then "/" else path, some limit⟩ := by
  cases hcut : Text.cutAt '?' raw.toList with
  | none => exact Or.inl (normalize_of_notMem (Text.cutAt_eq_none.1 hcut))
  | some parts =>
    obtain ⟨front, query⟩ := parts
    obtain ⟨hraw, hfront⟩ := Text.cutAt_eq_some.1 hcut
    cases hlimit : ofQuery? query with
    | none =>
      left
      rw [normalize, hcut]
      simp only [hlimit]
    | some limit =>
      have htext : front = (String.ofList front).toList := String.toList_ofList.symm
      rw [htext] at hraw hfront
      exact Or.inr ⟨String.ofList front, query, limit, hraw, hfront, hlimit,
        normalize_of_limit hraw hfront hlimit⟩

/-- A path with a query in which one pair gives a limit of early data. -/
def withLimit (path : String) (before : List String) (limit : Nat) (after : List String) :
    String :=
  path ++ "?" ++ "&".intercalate (before ++ ("ed=" ++ toString limit) :: after)

theorem toList_withLimit (path : String) (before : List String) (limit : Nat)
    (after : List String) :
    (withLimit path before limit after).toList = path.toList ++
      '?' :: ['&'].intercalate (before.map String.toList ++
        limitPair limit :: after.map String.toList) := by
  have hmark : "?".toList = ['?'] := rfl
  have hseparator : "&".toList = ['&'] := rfl
  rw [withLimit, String.toList_append, String.toList_append, String.toList_intercalate, hmark,
    hseparator, List.append_assoc, List.singleton_append, List.map_append, List.map_cons,
    String.toList_append, Nat.toString_eq_repr, Nat.toList_repr]
  rfl

/-- What a path has become, and the limit that was taken from it. -/
structure Normalized (raw : String) (p : WebSocketPath) : Prop where
  /-- With a limit, the path is what stood before the query. -/
  limited : ∀ limit, p.maxEarlyData = some limit →
    1 ≤ limit ∧ limit ≤ Text.maxU32 ∧ p.path ≠ "" ∧ '?' ∉ p.path.toList ∧
    ∃ front query, raw = front ++ "?" ++ query ∧ '?' ∉ front.toList ∧
      p.path = if front = "" then "/" else front
  /-- Without a limit, it is left as it is. -/
  plain : p.maxEarlyData = none → p.path = raw
  /-- There is nothing left to take from it. -/
  stable : normalize p.path = ⟨p.path, none⟩

theorem normalized (raw : String) : Normalized raw (normalize raw) := by
  rcases normalize_cases raw with h | ⟨path, query, limit, hraw, hpath, hlimit, h⟩
  · rw [h]
    exact ⟨fun _ hsome => (by cases hsome), fun _ => rfl, h⟩
  · have hne : (if path = "" then "/" else path) ≠ "" := by
      split
      · decide
      · assumption
    have hmark : '?' ∉ (if path = "" then "/" else path).toList := by
      split
      · decide
      · exact hpath
    have htext : raw = path ++ "?" ++ String.ofList query := by
      rw [← String.toList_inj, hraw]
      simp
    rw [h]
    refine ⟨fun n hn => ?_, fun hnone => (by cases hnone), normalize_of_notMem hmark⟩
    obtain rfl := Option.some.inj hn
    obtain ⟨hpos, hbound⟩ := bounds_of_ofQuery? hlimit
    exact ⟨hpos, hbound, hne, hmark, path, String.ofList query, htext, hpath, rfl⟩

/-- A limit that was written into the query of a path is taken out again, and the path is what it
was, or a slash if it was empty.  Every other path is left as it is. -/
theorem early_data_taken_from_path :
    (∀ path before limit after, '?' ∉ path.toList → 1 ≤ limit → limit ≤ Text.maxU32 →
      (∀ pair ∈ before, IsOther pair.toList) →
      normalize (withLimit path before limit after) =
        ⟨if path = "" then "/" else path, some limit⟩) ∧
    ∀ raw, Normalized raw (normalize raw) := by
  refine ⟨fun path before limit after hpath hpos hbound hbefore => ?_, normalized⟩
  have hlimit : ofQuery? (['&'].intercalate (before.map String.toList ++
      limitPair limit :: after.map String.toList)) = some limit :=
    ofQuery?_intercalate (List.forall_mem_map.2 hbefore) hpos hbound
  exact normalize_of_limit (toList_withLimit path before limit after) hpath hlimit

/-- A limit of 32 bits among pairs of which some look like it, one is empty and one comes later. -/
theorem early_data_taken_from_path_sample :
    withLimit "/ws" ["%65=1", "", "e+d=2"] 4294967295 ["ed=7"] =
      "/ws?%65=1&&e+d=2&ed=4294967295&ed=7" ∧
    '?' ∉ "/ws".toList ∧ (1 : Nat) ≤ 4294967295 ∧ 4294967295 ≤ Text.maxU32 ∧
    (∀ pair ∈ ["%65=1", "", "e+d=2"], IsOther pair.toList) ∧
    normalize "/ws?%65=1&&e+d=2&ed=4294967295&ed=7" = ⟨"/ws", some 4294967295⟩ ∧
    Normalized "/ws?%65d=0" ⟨"/ws?%65d=0", none⟩ := by
  have htext : withLimit "/ws" ["%65=1", "", "e+d=2"] 4294967295 ["ed=7"] =
      "/ws?%65=1&&e+d=2&ed=4294967295&ed=7" := by decide +kernel
  have hothers : ∀ pair ∈ ["%65=1", "", "e+d=2"], IsOther pair.toList := by decide +kernel
  have hzero : normalize "/ws?%65d=0" = ⟨"/ws?%65d=0", none⟩ := by decide +kernel
  refine ⟨htext, by decide, by decide, by decide, hothers, ?_, ?_⟩
  · rw [← htext]
    exact early_data_taken_from_path.1 _ _ _ _ (by decide) (by decide) (by decide) hothers
  · rw [← hzero]
    exact early_data_taken_from_path.2 _

end WebSocketPath
end ProxyConfig
