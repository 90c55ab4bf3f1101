import Mathlib.Data.List.Basic
import ProxyConfig.Loading

/-!
# Names in a valid configuration

The check of names goes through the names that a model gives and stops at the first one that is
reserved or was given before.  If it finds none, all given names are different from each other and
from the reserved ones.

Main results:

- `Faults.orElseWhole_eq_nil_iff`: a record is in order when its fields and its own checks are.
- `nameClash?_eq_none_iff`: what it means that no name clashes.
- `names_of_validated`: what a valid configuration knows about its names.
-/

namespace ProxyConfig

/-! ## Faults that are not there -/

namespace Faults

@[simp]
theorem nested_eq_nil_iff {name : String} {faults : Faults} :
    nested name faults = [] ↔ faults = [] := by
  unfold nested
  cases faults <;> simp

/-- A record without faults has none in its fields, and its own checks have not failed. -/
theorem orElseWhole_eq_nil_iff {faults : Faults} {failed : List FailedCheck} :
    orElseWhole faults failed = [] ↔ faults = [] ∧ failed = [] := by
  unfold orElseWhole
  cases faults <;> cases failed <;> simp

end Faults

/-! ## Names -/

namespace Validation

/-- No name clashes when the names are different from each other, from the reserved ones and from
those that were seen before. -/
theorem nameClash?_eq_none_iff {reserved seen names : List String} :
    nameClash? reserved seen names = none ↔
      names.Nodup ∧ ∀ name ∈ names, name ∉ reserved ∧ name ∉ seen := by
  induction names generalizing seen with
  | nil => simp [nameClash?]
  | cons name rest ih =>
    unfold nameClash?
    by_cases hreserved : name ∈ reserved
    · simp [hreserved]
    · by_cases hseen : name ∈ seen
      · simp [hreserved, hseen]
      · rw [if_neg hreserved, if_neg hseen, ih, List.nodup_cons]
        constructor
        · rintro ⟨hnodup, hrest⟩
          have hfresh : name ∉ rest := fun h => (hrest name h).2 (by simp)
          refine ⟨⟨hfresh, hnodup⟩, ?_⟩
          intro other hother
          rcases List.mem_cons.1 hother with rfl | hmem
          · exact ⟨hreserved, hseen⟩
          · exact ⟨(hrest other hmem).1, fun h => (hrest other hmem).2 (List.mem_cons_of_mem _ h)⟩
        · rintro ⟨⟨hfresh, hnodup⟩, hall⟩
          refine ⟨hnodup, ?_⟩
          intro other hother
          have hne : other ≠ name := fun h => hfresh (h ▸ hother)
          obtain ⟨hres, hold⟩ := hall other (List.mem_cons_of_mem _ hother)
          exact ⟨hres, by simp [hne, hold]⟩

end Validation

/-- A configuration counts as valid exactly when it has no faults. -/
theorem validated_eq_ok_iff {config checked : Config} :
    config.validated = .ok checked ↔
      Validation.config Url.isValid config = [] ∧ checked = config := by
  unfold Config.validated
  cases Validation.config Url.isValid config <;> simp [eq_comm]

/-- In a valid configuration the given names are all different, and none of them is reserved. -/
theorem names_of_validated {config : Config} (hvalid : config.validated = .ok config) :
    (Validation.givenNames config.model).Nodup ∧
      ∀ name ∈ Validation.givenNames config.model,
        name ∉ Validation.reservedNames config.model := by
  have hconfig := (validated_eq_ok_iff.1 hvalid).1
  unfold Validation.config at hconfig
  rw [List.append_eq_nil_iff, Faults.nested_eq_nil_iff] at hconfig
  have hmodel := (Faults.orElseWhole_eq_nil_iff.1 hconfig.1).2
  rw [Option.toList_eq_nil_iff, Validation.nameClash?_eq_none_iff] at hmodel
  exact ⟨hmodel.1, fun name hname => (hmodel.2 name hname).1⟩

end ProxyConfig
