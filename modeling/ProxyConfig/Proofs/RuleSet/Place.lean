import ProxyConfig.Proofs.RuleSet.Download
import ProxyConfig.Proofs.RuleSet.Tag
import ProxyConfig.RuleSet.Synchronizer

/-!
# Where rule-sets lie

The files of the rule-sets of a folder, and their temporary files, lie side by side under names of
their own.  So downloads of different rule-sets are apart from each other.

Main results:

- `isOutside_localPath`: the slots of one rule-set are apart from those of another.
- `apart_jobs`: downloads of different rule-sets are apart.
- `stat_localPath`, `stat_temporaryPath`: what is found at the paths of a rule-set.
-/

namespace ProxyConfig

open Files Files.Folder

variable {base f : Folder} {dir : String} {l k : Location} {a b tag : RuleSetTag}

/-! ## Slots -/

namespace RuleSetTag

/-- The names under which the files of a rule-set can lie. -/
def ownNames (tag : RuleSetTag) : List String :=
  [tag.fileName, tag.fileName ++ ".tmp"]

theorem isName_temporary (hname : '/' ∉ tag.name.toList) : Path.IsName (tag.fileName ++ ".tmp") :=
  isName_fileName_append hname ".tmp" (by decide)

/-- Different rule-sets have no name in common. -/
theorem ownNames_disjoint (hne : a ≠ b) {x y : String} (hx : x ∈ a.ownNames)
    (hy : y ∈ b.ownNames) : x ≠ y := by
  rintro rfl
  simp only [ownNames, List.mem_cons, List.not_mem_nil, or_false] at hx hy
  rcases hx with rfl | rfl
  · rcases hy with h | h
    · exact hne (fileName_inj h)
    · exact fileName_ne_temporary a b h
  · rcases hy with h | h
    · exact fileName_ne_temporary b a h.symm
    · have hchars := congrArg String.toList h
      rw [String.toList_append, String.toList_append] at hchars
      exact hne (fileName_inj (String.toList_inj.1 (List.append_cancel_right hchars)))

end RuleSetTag

/-- The slot of a file in a folder that can be reached. -/
theorem eq_of_slot?_join {name : String} (hname : Path.IsName name)
    (hwalk : base.walk [] (Path.names dir) = .ok l)
    (h : base.slot? (Path.join dir name) = some k) : k = l ++ [name] := by
  rw [slot?_join hname hwalk] at h
  split at h
  · cases h
    rfl
  · cases h

section Slots

variable (hwalk : base.walk [] (Path.names dir) = .ok l)

include hwalk

/-- The slots of a rule-set have its names. -/
theorem exists_ownName_of_isSlot (hname : '/' ∉ tag.name.toList)
    (h : base.IsSlot (tag.localPath dir) k) : ∃ name ∈ tag.ownNames, k = l ++ [name] := by
  rcases h with htarget | htemporary
  · exact ⟨_, List.mem_cons_self, eq_of_slot?_join (RuleSetTag.isName_fileName hname) hwalk htarget⟩
  · unfold RuleSetTag.localPath at htemporary
    rw [temporaryPath_join] at htemporary
    exact ⟨_, List.mem_cons_of_mem _ List.mem_cons_self,
      eq_of_slot?_join (RuleSetTag.isName_temporary hname) hwalk htemporary⟩

/-- The slots of one rule-set lie apart from those of another. -/
theorem isOutside_localPath (ha : '/' ∉ a.name.toList) (hb : '/' ∉ b.name.toList) (hne : a ≠ b)
    (h : base.IsSlot (b.localPath dir) k) : base.IsOutside (a.localPath dir) k := by
  intro m hm
  obtain ⟨x, hx, rfl⟩ := exists_ownName_of_isSlot hwalk ha hm
  obtain ⟨y, hy, rfl⟩ := exists_ownName_of_isSlot hwalk hb h
  exact disjoint_concat (RuleSetTag.ownNames_disjoint hne hx hy)

/-- Downloads of different rule-sets are apart from each other. -/
theorem Synchronizer.apart_jobs {y : Synchronizer} (hdir : y.dir = dir) {source : RuleSetSource}
    {tags : List RuleSetTag} (hnames : ∀ tag ∈ tags, '/' ∉ tag.name.toList) :
    Download.Apart base (tags.map (y.job source)) := by
  subst hdir
  refine ⟨?_, ?_, ?_⟩
  · intro x hx z hz hurl
    obtain ⟨a, _, rfl⟩ := List.mem_map.1 hx
    obtain ⟨b, _, rfl⟩ := List.mem_map.1 hz
    rw [RuleSetTag.url_inj hurl]
  · intro x hx
    obtain ⟨a, ha, rfl⟩ := List.mem_map.1 hx
    exact base.slotsApart _
  · intro x hx z hz hne k hk
    obtain ⟨a, ha, rfl⟩ := List.mem_map.1 hx
    obtain ⟨b, hb, rfl⟩ := List.mem_map.1 hz
    have hab : a ≠ b := by
      rintro rfl
      exact hne rfl
    exact isOutside_localPath hwalk (hnames a ha) (hnames b hb) hab hk

/-! ## Entries -/

/-- A rule-set shows the same entry as before if its slot was kept. -/
theorem stat_localPath (hname : '/' ∉ tag.name.toList) (hsame : SameFolders base f)
    (hkept : base.Keeps f (tag.localPath dir)) :
    f.stat (tag.localPath dir) = base.stat (tag.localPath dir) :=
  stat_join_congr (RuleSetTag.isName_fileName hname) hwalk hsame hkept

/-- The temporary file of a rule-set that was left alone is as before or gone. -/
theorem stat_temporaryPath (hname : '/' ∉ tag.name.toList) (hsame : SameFolders base f)
    (h : base.Keeps f (temporaryPath (tag.localPath dir)) ∨
      base.Lacks f (temporaryPath (tag.localPath dir))) :
    f.stat (temporaryPath (tag.localPath dir)) = base.stat (temporaryPath (tag.localPath dir)) ∨
      f.stat (temporaryPath (tag.localPath dir)) = .error .notFound := by
  have hshape : temporaryPath (tag.localPath dir) = Path.join dir (tag.fileName ++ ".tmp") :=
    temporaryPath_join dir tag.fileName
  rw [hshape] at h ⊢
  have hisName := RuleSetTag.isName_temporary hname
  rcases h with hkept | hlacks
  · exact Or.inl (stat_join_congr hisName hwalk hsame hkept)
  · cases hslot : base.slot? (Path.join dir (tag.fileName ++ ".tmp")) with
    | none =>
      refine Or.inl (stat_join_congr hisName hwalk hsame ?_)
      intro k hk
      rw [hslot] at hk
      cases hk
    | some k =>
      have hslot' : f.slot? (Path.join dir (tag.fileName ++ ".tmp")) = some k := by
        rw [slot?_congr hsame]
        exact hslot
      rw [stat_of_slot hslot', hlacks k hslot]
      exact Or.inr rfl

end Slots
end ProxyConfig
