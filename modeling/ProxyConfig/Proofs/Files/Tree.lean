import Mathlib.Data.List.Basic
import ProxyConfig.Files.Tree

/-!
# Folders under changes of files

Whether a path can be followed depends only on where the folders of a tree are.  Putting a file where
no folder is, and taking a file away, leaves every folder at its place; making a folder adds one.

Main results:

- `find?_append`: how the entries inside an entry are found.
- `sameFolders_put_file`, `sameFolders_erase`: changes of files leave the folders alone.
- `sameFiles_put_folder`: a new folder leaves the files alone.
- `disjoint_concat`: two names in one folder lead to separate places.
-/

namespace ProxyConfig
namespace Files
namespace Folder

variable {f : Folder} {l m : Location} {name : String} {e : Entry}

/-! ## Entries inside entries -/

theorem holdsFolder_iff : f.holdsFolder l = true ↔ ∃ inner, f.find? l = some (.folder inner) := by
  unfold holdsFolder
  cases h : f.find? l with
  | none => simp
  | some e => cases e <;> simp [Entry.isFolder]

@[simp]
theorem holdsFolder_nil : f.holdsFolder [] = true := rfl

/-- Inside a folder, what follows is looked up in it; elsewhere there is nothing inside. -/
theorem find?_append (f : Folder) (l m : Location) :
    f.find? (l ++ m) =
      if m = [] then f.find? l
      else
        match f.find? l with
        | some (.folder inner) => Folder.find? inner m
        | _ => none := by
  induction l generalizing f with
  | nil =>
    cases m with
    | nil => rfl
    | cons b m => rfl
  | cons a rest ih =>
    cases m with
    | nil => simp
    | cons b m =>
      rw [if_neg (List.cons_ne_nil b m)]
      cases rest with
      | nil =>
        rw [find?_singleton]
        exact find?_cons_cons f a b m
      | cons c rest =>
        rw [List.cons_append, List.cons_append, find?_cons_cons, find?_cons_cons]
        cases hchild : f.child? a with
        | none => rfl
        | some x =>
          cases x with
          | file content modified => rfl
          | folder inner =>
            have hinner := ih inner
            rw [if_neg (List.cons_ne_nil b m), List.cons_append] at hinner
            exact hinner

/-- The entries of a folder are its children. -/
theorem find?_concat {inner : Folder} (hl : f.find? l = some (.folder inner)) :
    f.find? (l ++ [name]) = inner.child? name := by
  rw [find?_append, if_neg (List.cons_ne_nil _ _), hl]
  exact find?_singleton inner name

/-- What has something inside is a folder. -/
theorem holdsFolder_of_find?_append (hm : m ≠ []) (h : f.find? (l ++ m) = some e) :
    f.holdsFolder l = true := by
  rw [find?_append, if_neg hm] at h
  rw [holdsFolder_iff]
  split at h
  · rename_i inner hinner
    exact ⟨inner, hinner⟩
  · cases h

/-- What lies on the way to a folder is a folder. -/
theorem holdsFolder_of_append (h : f.holdsFolder (l ++ m) = true) : f.holdsFolder l = true := by
  by_cases hm : m = []
  · rwa [hm, List.append_nil] at h
  · obtain ⟨inner, hinner⟩ := holdsFolder_iff.1 h
    exact holdsFolder_of_find?_append hm hinner

/-! ## Changes at a place -/

/-- A change that goes down into a folder leaves the folders on its way at their places. -/
theorem holdsFolder_above (change : Folder → Location → Folder)
    (hchange : ∀ {f : Folder} {a b : String} {l : Location} {inner : Folder},
      f.child? a = some (.folder inner) →
        change f (a :: b :: l) = putChild a (.folder (change inner (b :: l))) f)
    (h : f.holdsFolder l = true) (hm : m ≠ []) : (change f (l ++ m)).holdsFolder l = true := by
  induction l generalizing f with
  | nil => rfl
  | cons a rest ih =>
    obtain ⟨b, m', hbm⟩ : ∃ b m', rest ++ m = b :: m' := by
      apply List.exists_cons_of_ne_nil
      simp [hm]
    obtain ⟨inner, hchild⟩ : ∃ inner, f.child? a = some (.folder inner) := by
      have ha : f.holdsFolder [a] = true := holdsFolder_of_append (m := rest) h
      rwa [holdsFolder_iff, find?_singleton] at ha
    rw [List.cons_append, hbm, hchange hchild]
    cases rest with
    | nil => simp [holdsFolder, child?_putChild, Entry.isFolder]
    | cons c rest =>
      have hrest : Folder.holdsFolder inner (c :: rest) = true := by
        unfold holdsFolder at h ⊢
        rwa [find?_cons_cons, hchild] at h
      have hinner := ih hrest
      rw [hbm] at hinner
      unfold holdsFolder at hinner ⊢
      rw [find?_cons_cons, child?_putChild, if_pos rfl]
      exact hinner

/-- The folder in which something is put stays a folder, and so do those above it. -/
theorem holdsFolder_put_above (h : f.holdsFolder l = true) (hm : m ≠ []) :
    (f.put e (l ++ m)).holdsFolder l = true := by
  apply holdsFolder_above (fun f l => f.put e l) ?_ h hm
  intro f a b l inner hchild
  rw [put_cons_cons, hchild]

/-- The folder from which something is taken away stays a folder, and so do those above it. -/
theorem holdsFolder_erase_above (h : f.holdsFolder l = true) (hm : m ≠ []) :
    (f.erase (l ++ m)).holdsFolder l = true := by
  apply holdsFolder_above erase ?_ h hm
  intro f a b l inner hchild
  rw [erase_cons_cons, hchild]

/-- How a location lies to another one. -/
theorem location_cases (l p : Location) :
    (∃ m, m ≠ [] ∧ p = l ++ m) ∨ (∃ m, l = p ++ m) ∨ Disjoint p l := by
  by_cases hlp : l <+: p
  · obtain ⟨m, rfl⟩ := hlp
    by_cases hm : m = []
    · exact Or.inr (Or.inl ⟨[], by simp [hm]⟩)
    · exact Or.inl ⟨m, hm, rfl⟩
  · by_cases hpl : p <+: l
    · obtain ⟨m, rfl⟩ := hpl
      exact Or.inr (Or.inl ⟨m, rfl⟩)
    · exact Or.inr (Or.inr ⟨hpl, hlp⟩)

/-- What lies above a name in a folder is a folder. -/
theorem holdsFolder_of_concat_eq (hl : f.holdsFolder l = true) {k : Location} (hm : m ≠ [])
    (hk : l ++ [name] = k ++ m) : f.holdsFolder k = true := by
  have hsplit : l = k ++ m.dropLast := by
    rw [← List.dropLast_append_of_ne_nil hm, ← hk, List.dropLast_concat]
  rw [hsplit] at hl
  exact holdsFolder_of_append hl

/-- Every folder of the first tree is one of the second. -/
def FoldersWithin (f g : Folder) : Prop :=
  ∀ l, f.holdsFolder l = true → g.holdsFolder l = true

theorem FoldersWithin.refl (f : Folder) : FoldersWithin f f :=
  fun _ h => h

theorem FoldersWithin.trans {f g h : Folder} (hfg : FoldersWithin f g) (hgh : FoldersWithin g h) :
    FoldersWithin f h :=
  fun l hl => hgh l (hfg l hl)

/-- Putting something where no folder is leaves all folders. -/
theorem foldersWithin_put {p : Location} (hp : f.holdsFolder p = false) :
    FoldersWithin f (f.put e p) := by
  intro l hl
  rcases location_cases l p with ⟨m, hm, rfl⟩ | ⟨m, rfl⟩ | hapart
  · exact holdsFolder_put_above hl hm
  · rw [holdsFolder_of_append hl] at hp
    cases hp
  · unfold holdsFolder at hl ⊢
    rwa [find?_put_of_disjoint hapart]

/-- The two trees have their folders at the same places. -/
def SameFolders (f g : Folder) : Prop :=
  ∀ l, g.holdsFolder l = f.holdsFolder l

theorem SameFolders.refl (f : Folder) : SameFolders f f :=
  fun _ => rfl

theorem SameFolders.symm {f g : Folder} (h : SameFolders f g) : SameFolders g f :=
  fun l => (h l).symm

theorem SameFolders.trans {f g h : Folder} (hfg : SameFolders f g) (hgh : SameFolders g h) :
    SameFolders f h :=
  fun l => (hgh l).trans (hfg l)

theorem SameFolders.foldersWithin {f g : Folder} (h : SameFolders f g) : FoldersWithin f g :=
  fun l hl => (h l).trans hl

/-- A change at a name in a folder that is no folder before and after. -/
theorem sameFolders_of_change {g : Folder} (hl : f.holdsFolder l = true)
    (hbefore : f.holdsFolder (l ++ [name]) = false) (hafter : g.holdsFolder (l ++ [name]) = false)
    (habove : ∀ k m, m ≠ [] → l ++ [name] = k ++ m → f.holdsFolder k = true →
      g.holdsFolder k = true)
    (hdisjoint : ∀ k, Disjoint (l ++ [name]) k → g.find? k = f.find? k) : SameFolders f g := by
  intro k
  rcases location_cases k (l ++ [name]) with ⟨m, hm, hk⟩ | ⟨m, rfl⟩ | hapart
  · have hfolder := holdsFolder_of_concat_eq hl hm hk
    rw [hfolder, habove k m hm hk hfolder]
  · have hnone : ∀ {t : Folder}, t.holdsFolder (l ++ [name]) = false →
        t.holdsFolder (l ++ [name] ++ m) = false := by
      intro t ht
      by_contra hinside
      rw [Bool.not_eq_false] at hinside
      rw [holdsFolder_of_append hinside] at ht
      cases ht
    rw [hnone hbefore, hnone hafter]
  · unfold holdsFolder
    rw [hdisjoint k hapart]

/-- A file is put where no folder is. -/
theorem sameFolders_put_file {content : Content} {modified : Time} (hl : f.holdsFolder l = true)
    (hp : f.holdsFolder (l ++ [name]) = false) :
    SameFolders f (f.put (.file content modified) (l ++ [name])) := by
  refine sameFolders_of_change hl hp ?_ ?_ fun k => find?_put_of_disjoint
  · simp [holdsFolder, find?_put hl, Entry.isFolder]
  · intro k m hm hk hfolder
    rw [hk]
    exact holdsFolder_put_above hfolder hm

/-- What is taken away is no folder. -/
theorem sameFolders_erase (hl : f.holdsFolder l = true)
    (hp : f.holdsFolder (l ++ [name]) = false) : SameFolders f (f.erase (l ++ [name])) := by
  refine sameFolders_of_change hl hp ?_ ?_ fun k => find?_erase_of_disjoint
  · simp [holdsFolder, find?_erase]
  · intro k m hm hk hfolder
    rw [hk]
    exact holdsFolder_erase_above hfolder hm

/-- Two names in one folder lead to separate places. -/
theorem disjoint_concat {a b : String} (h : a ≠ b) : Disjoint (l ++ [a]) (l ++ [b]) := by
  constructor
  · intro hbegin
    have heq := hbegin.eq_of_length (by simp)
    simp [h] at heq
  · intro hbegin
    have heq := hbegin.eq_of_length (by simp)
    simp [Ne.symm h] at heq

/-! ## New folders -/

/-- The two trees have the same files. -/
def SameFiles (f g : Folder) : Prop :=
  ∀ l content modified,
    g.find? l = some (.file content modified) ↔ f.find? l = some (.file content modified)

theorem SameFiles.refl (f : Folder) : SameFiles f f :=
  fun _ _ _ => Iff.rfl

theorem SameFiles.trans {f g h : Folder} (hfg : SameFiles f g) (hgh : SameFiles g h) :
    SameFiles f h :=
  fun l content modified => (hgh l content modified).trans (hfg l content modified)

/-- There is nothing in the empty folder. -/
theorem find?_empty (hm : m ≠ []) : Folder.find? [] m = none := by
  cases m with
  | nil => exact absurd rfl hm
  | cons a rest => rfl

/-- A new folder comes without files. -/
theorem sameFiles_put_folder (hl : f.holdsFolder l = true) (hnone : f.find? (l ++ [name]) = none) :
    SameFiles f (f.put (.folder []) (l ++ [name])) := by
  intro k content modified
  have hnew : (f.put (.folder []) (l ++ [name])).find? (l ++ [name]) = some (.folder []) :=
    find?_put hl
  rcases location_cases k (l ++ [name]) with ⟨m, hm, hk⟩ | ⟨m, rfl⟩ | hapart
  · -- What lies on the way is a folder before and after.
    have hbefore : f.holdsFolder k = true := holdsFolder_of_concat_eq hl hm hk
    have hafter : (f.put (.folder []) (l ++ [name])).holdsFolder k = true := by
      rw [hk]
      exact holdsFolder_put_above hbefore hm
    obtain ⟨_, hbefore⟩ := holdsFolder_iff.1 hbefore
    obtain ⟨_, hafter⟩ := holdsFolder_iff.1 hafter
    rw [hbefore, hafter]
    simp
  · rw [find?_append, hnew, find?_append f, hnone]
    by_cases hm : m = []
    · simp [hm]
    · simp [hm, find?_empty]
  · rw [find?_put_of_disjoint hapart]

end Folder
end Files
end ProxyConfig
