import ProxyConfig.Proofs.Files.Slot

/-!
# Making a folder and the folders above it

However many folders are made for a path, no file is touched and no folder goes away; and if nothing
fails, the path leads to a folder in the end.  If the path never goes up, nothing that could be
reached through it before changes: either the folder was there already, or it is new and empty.

Main results:

- `createFolders_spec`: what holds after the folders of a path were made, or some of them.
- `eq_of_createFolders`, `createFolders_again`: nothing is made for a path that can be followed
  already.
- `stat_createFolders`: the entries inside the folder of a path that never goes up.
-/

namespace ProxyConfig
namespace Files
namespace Folder

variable {f g : Folder} {names : List String} {ending : Path.Ending} {r : Except FileError Unit}

/-! ## One folder -/

/-- A folder is made beside what is there, under a name that is free. -/
theorem makeFolderAt_eq_ok (h : f.makeFolderAt names ending = .ok g) :
    ∃ l name, names = names.dropLast ++ [name] ∧ name ≠ ".." ∧
      name.utf8ByteSize ≤ longestName ∧ f.walk [] names.dropLast = .ok l ∧
      f.find? (l ++ [name]) = none ∧ g = f.put (.folder []) (l ++ [name]) := by
  unfold makeFolderAt at h
  cases hplace : f.placeOf names ending with
  | error e => simp [hplace, bind, Except.bind] at h
  | ok p =>
    obtain ⟨folder, name, demands⟩ := p
    cases name with
    | none => simp [hplace, bind, Except.bind] at h
    | some name =>
      obtain ⟨_, hup, front, rfl, hwalk⟩ := walk_of_placeOf hplace
      simp only [hplace, bind, Except.bind, Place.location] at h
      rw [List.dropLast_concat]
      split at h
      · cases h
      · rename_i hshort
        split at h
        · cases h
        · rename_i hfree
          cases h
          exact ⟨folder, name, rfl, hup, Nat.not_lt.1 hshort, hwalk, hfree, rfl⟩

/-- Names that lead to a folder can be followed. -/
theorem walk_of_isFolderAtNames (h : f.isFolderAtNames names = true) :
    ∃ l, f.walk [] names = .ok l := by
  unfold isFolderAtNames at h
  split at h
  · rename_i p hplace
    split at h
    · rename_i e hentry
      exact (leadsTo_of_placeOf hplace).exists_walk hentry h
    · cases h
  · cases h

/-! ## Several folders -/

/-- A folder is new, or nothing is done; and if that is no failure, the folder is there. -/
theorem settleFolder_cases (h : f.settleFolder names ending = (g, r)) :
    (f.makeFolderAt names ending = .ok g ∧ r = .ok ()) ∨
      (g = f ∧ (r = .ok () → f.isFolderAtNames names = true)) := by
  unfold settleFolder at h
  cases hmake : f.makeFolderAt names ending with
  | ok made =>
    simp only [hmake, Prod.mk.injEq] at h
    exact Or.inl ⟨congrArg _ h.1, h.2.symm⟩
  | error e =>
    simp only [hmake, Prod.mk.injEq] at h
    obtain ⟨rfl, rfl⟩ := h
    refine Or.inr ⟨rfl, fun hok => ?_⟩
    by_contra hfolder
    rw [if_neg hfolder] at hok
    cases hok

/-- Either the folder itself was settled, or the one above it was made first because the folder was
missing, and that may have failed. -/
theorem makeFolders_cases {n : Nat} (h : f.makeFolders names ending n = (g, r)) :
    f.settleFolder names ending = (g, r) ∨
      ∃ k, n = k + 1 ∧ f.makeFolderAt names ending = .error .notFound ∧
        ((∃ above, f.makeFolders names.dropLast .nothing k = (above, .ok ()) ∧
            above.settleFolder names ending = (g, r)) ∨
          f.makeFolders names.dropLast .nothing k = (g, r) ∧ r ≠ .ok ()) := by
  cases n with
  | zero => exact Or.inl h
  | succ k =>
    rw [makeFolders] at h
    split at h
    · rename_i hmissing
      refine Or.inr ⟨k, rfl, hmissing, ?_⟩
      split at h
      · rename_i above u habove
        exact Or.inl ⟨above, habove, h⟩
      · rename_i above e habove
        cases h
        exact Or.inr ⟨habove, by simp⟩
    · exact Or.inl h

/-- What holds after folders were made, or some of them: all folders and files are still there, no
file is new, and if nothing has failed, the names lead to a folder. -/
structure Made (f : Folder) (names : List String) (g : Folder) (r : Except FileError Unit) :
    Prop where
  foldersWithin : FoldersWithin f g
  sameFiles : SameFiles f g
  walk : r = .ok () → ∃ l, g.walk [] names = .ok l

theorem made_of_settleFolder (h : f.settleFolder names ending = (g, r)) : f.Made names g r := by
  rcases settleFolder_cases h with ⟨hmade, _⟩ | ⟨rfl, hfolder⟩
  · obtain ⟨l, name, hnames, hup, hshort, hwalk, hfree, rfl⟩ := makeFolderAt_eq_ok hmade
    have hfolder := holdsFolder_of_walk holdsFolder_nil hwalk
    have hwithin : FoldersWithin f (f.put (.folder []) (l ++ [name])) := by
      apply foldersWithin_put
      simp [holdsFolder, hfree]
    refine ⟨hwithin, sameFiles_put_folder hfolder hfree, fun _ => ⟨l ++ [name], ?_⟩⟩
    rw [hnames, walk_append_eq_ok_iff]
    refine ⟨l, walk_mono hwithin hwalk, walk_cons_eq_ok_iff.2 ⟨_, ?_, rfl⟩⟩
    refine enter_eq_ok_iff.2 (Or.inr ⟨hup, hshort, ?_, rfl⟩)
    simp [holdsFolder, find?_put hfolder, Entry.isFolder]
  · exact ⟨FoldersWithin.refl g, SameFiles.refl g, fun hok => walk_of_isFolderAtNames (hfolder hok)⟩

theorem made_of_makeFolders {n : Nat} (h : f.makeFolders names ending n = (g, r)) :
    f.Made names g r := by
  induction n generalizing names ending f g r with
  | zero => exact made_of_settleFolder h
  | succ n ih =>
    rcases makeFolders_cases h with hsettle | ⟨k, hsucc, _, ⟨above, habove, hsettle⟩ | ⟨habove, hr⟩⟩
    · exact made_of_settleFolder hsettle
    · cases hsucc
      have hfirst := ih habove
      have hlast := made_of_settleFolder hsettle
      exact ⟨hfirst.foldersWithin.trans hlast.foldersWithin,
        hfirst.sameFiles.trans hlast.sameFiles, hlast.walk⟩
    · cases hsucc
      have hfirst := ih habove
      exact ⟨hfirst.foldersWithin, hfirst.sameFiles, fun hok => absurd hok hr⟩

/-- It is told by the path alone whether there is nothing to be made, or nothing can be made, or the
folders of its names are made. -/
theorem createFolders_cases (path : String) :
    (Path.names path = [] ∧ ∀ f : Folder, f.createFolders path = (f, .ok ())) ∨
      (∃ e, ∀ f : Folder, f.createFolders path = (f, .error e)) ∨
      ∀ f : Folder, f.createFolders path =
        f.makeFolders (Path.names path) (Path.ending path) (Path.names path).length := by
  unfold createFolders
  split
  · rename_i hempty
    refine Or.inl ⟨?_, fun _ => rfl⟩
    rw [hempty]
    decide
  · refine Or.inr ?_
    split
    · exact Or.inl ⟨_, fun _ => rfl⟩
    · split
      · exact Or.inl ⟨_, fun _ => rfl⟩
      · exact Or.inr fun _ => rfl

/-- After the folders of a path were made, or some of them. -/
theorem createFolders_spec {path : String} (h : f.createFolders path = (g, r)) :
    f.Made (Path.names path) g r := by
  rcases createFolders_cases path with ⟨hnames, hcreate⟩ | ⟨e, hcreate⟩ | hcreate
  · rw [hcreate] at h
    cases h
    rw [hnames]
    exact ⟨FoldersWithin.refl f, SameFiles.refl f, fun _ => ⟨[], rfl⟩⟩
  · rw [hcreate] at h
    cases h
    exact ⟨FoldersWithin.refl f, SameFiles.refl f, by simp⟩
  · rw [hcreate] at h
    exact made_of_makeFolders h

/-! ## Paths that can be followed already -/

/-- No folder is made where names lead to a folder. -/
theorem makeFolderAt_of_walk {l : Location} (hwalk : f.walk [] names = .ok l) :
    f.makeFolderAt names ending = .error .exists := by
  obtain ⟨entries, hfolder⟩ := holdsFolder_iff.1 (holdsFolder_of_walk holdsFolder_nil hwalk)
  obtain ⟨⟨folder, name, demands⟩, hplace, hentry⟩ := exists_placeOf_of_walk ending hwalk hfolder
  simp only [makeFolderAt, hplace, bind, Except.bind]
  cases name with
  | none => rfl
  | some name =>
    simp only [entryAt] at hentry
    split at hentry
    · cases hentry
    · rename_i hshort
      split at hentry
      · cases hentry
      · rename_i e hfind
        simp only [if_neg hshort, hfind]

/-- A folder lies where names can be followed. -/
theorem isFolderAtNames_of_walk {l : Location} (hwalk : f.walk [] names = .ok l) :
    f.isFolderAtNames names = true := by
  obtain ⟨entries, hfolder⟩ := holdsFolder_iff.1 (holdsFolder_of_walk holdsFolder_nil hwalk)
  obtain ⟨p, hplace, hentry⟩ := exists_placeOf_of_walk .nothing hwalk hfolder
  simp only [isFolderAtNames, hplace, hentry]
  rfl

/-- Where names can be followed there is nothing to be made. -/
theorem makeFolders_of_walk {l : Location} (hwalk : f.walk [] names = .ok l) (n : Nat) :
    f.makeFolders names ending n = (f, .ok ()) := by
  have hsettle : f.settleFolder names ending = (f, .ok ()) := by
    simp [settleFolder, makeFolderAt_of_walk hwalk, isFolderAtNames_of_walk hwalk]
  cases n with
  | zero => exact hsettle
  | succ n => simp [makeFolders, makeFolderAt_of_walk hwalk, hsettle]

/-- Nothing is made for a path that can be followed already. -/
theorem eq_of_createFolders {path : String} {l : Location}
    (hwalk : f.walk [] (Path.names path) = .ok l) (h : f.createFolders path = (g, r)) : g = f := by
  rcases createFolders_cases path with ⟨_, hcreate⟩ | ⟨e, hcreate⟩ | hcreate
  · rw [hcreate] at h
    cases h
    rfl
  · rw [hcreate] at h
    cases h
    rfl
  · rw [hcreate, makeFolders_of_walk hwalk] at h
    cases h
    rfl

/-- The folders of a path that were made once can be made again as long as they are there, and that
changes nothing. -/
theorem createFolders_again {path : String} {base : Folder} {l : Location}
    (hmade : base.createFolders path = (g, .ok ())) (hwalk : f.walk [] (Path.names path) = .ok l) :
    f.createFolders path = (f, .ok ()) := by
  rcases createFolders_cases path with ⟨_, hcreate⟩ | ⟨e, hcreate⟩ | hcreate
  · exact hcreate f
  · rw [hcreate] at hmade
    cases hmade
  · rw [hcreate, makeFolders_of_walk hwalk]

/-! ## Paths that never go up -/

/-- Names that never go up lead nowhere if there is no folder. -/
theorem walk_ne_ok (hup : ".." ∉ names) (h : f.holdsFolder names = false) (l : Location) :
    f.walk [] names ≠ .ok l := by
  intro hwalk
  have hfolder := holdsFolder_of_walk holdsFolder_nil hwalk
  rw [eq_of_walk hup hwalk, List.nil_append, h] at hfolder
  cases hfolder

/-- The folder was there before, or nothing could be reached through it and it is empty. -/
def SameOrNew (f : Folder) (names : List String) (g : Folder) : Prop :=
  g = f ∨ ((∀ l, f.walk [] names ≠ .ok l) ∧ g.find? names = some (.folder []))

theorem sameOrNew_of_makeFolderAt (hup : ".." ∉ names) (h : f.makeFolderAt names ending = .ok g) :
    f.SameOrNew names g := by
  obtain ⟨l, name, hnames, _, _, hwalk, hfree, rfl⟩ := makeFolderAt_eq_ok h
  have hfolder := holdsFolder_of_walk holdsFolder_nil hwalk
  have hl : [] ++ names.dropLast = l :=
    (eq_of_walk (fun hmem => hup (List.dropLast_subset names hmem)) hwalk).symm
  have hplace : l ++ [name] = names := by
    rw [← hl, List.nil_append, ← hnames]
  rw [hplace] at hfree
  refine Or.inr ⟨walk_ne_ok hup (by simp [holdsFolder, hfree]), ?_⟩
  rw [← hplace]
  exact find?_put hfolder

theorem sameOrNew_of_settleFolder (hup : ".." ∉ names)
    (h : f.settleFolder names ending = (g, r)) : f.SameOrNew names g := by
  rcases settleFolder_cases h with ⟨hmade, _⟩ | ⟨rfl, _⟩
  · exact sameOrNew_of_makeFolderAt hup hmade
  · exact Or.inl rfl

/-- Along names that never go up, folders are made only where nothing could be reached before. -/
theorem sameOrNew_of_makeFolders {n : Nat} (hup : ".." ∉ names)
    (h : f.makeFolders names ending n = (g, .ok ())) : f.SameOrNew names g := by
  induction n generalizing names ending f g with
  | zero => exact sameOrNew_of_settleFolder hup h
  | succ n ih =>
    rcases makeFolders_cases h with hsettle | ⟨k, hsucc, hmissing, ⟨above, habove, hsettle⟩ | ⟨_, hr⟩⟩
    · exact sameOrNew_of_settleFolder hup hsettle
    · cases hsucc
      have hup' : ".." ∉ names.dropLast := fun hmem => hup (List.dropLast_subset names hmem)
      rcases ih hup' habove with rfl | ⟨hblocked, hempty⟩
      · exact sameOrNew_of_settleFolder hup hsettle
      · have hnames : names ≠ [] := by
          rintro rfl
          rw [makeFolderAt_of_walk walk_nil] at hmissing
          cases hmissing
        have hsplit := List.dropLast_append_getLast hnames
        refine Or.inr ⟨?_, ?_⟩
        · intro l hwalk
          rw [← hsplit] at hwalk
          obtain ⟨next, hnext, _⟩ := walk_append_eq_ok_iff.1 hwalk
          exact hblocked next hnext
        · rcases sameOrNew_of_settleFolder hup hsettle with rfl | ⟨_, hfind⟩
          · -- The folder above is empty, so no folder can be below it.
            obtain ⟨l, hwalk⟩ := (made_of_settleFolder hsettle).walk rfl
            have hnone : g.holdsFolder names = false := by
              rw [← hsplit]
              simp [holdsFolder, find?_concat hempty, child?]
            exact absurd hwalk (walk_ne_ok hup hnone l)
          · exact hfind
    · exact absurd rfl hr

theorem sameOrNew_of_createFolders {path : String} (hup : ".." ∉ Path.names path)
    (h : f.createFolders path = (g, .ok ())) : f.SameOrNew (Path.names path) g := by
  rcases createFolders_cases path with ⟨_, hcreate⟩ | ⟨e, hcreate⟩ | hcreate
  · rw [hcreate] at h
    cases h
    exact Or.inl rfl
  · rw [hcreate] at h
    cases h
  · rw [hcreate] at h
    exact sameOrNew_of_makeFolders hup h

/-- If the path of a folder never goes up, making the folder changes no entry inside it. -/
theorem stat_createFolders {dir name : String} (hup : ".." ∉ Path.names dir)
    (hname : Path.IsName name) (h : f.createFolders dir = (g, .ok ())) :
    (g.stat (Path.join dir name)).toOption = (f.stat (Path.join dir name)).toOption := by
  rcases sameOrNew_of_createFolders hup h with rfl | ⟨hblocked, hempty⟩
  · rfl
  · obtain ⟨l, hwalk⟩ := (createFolders_spec h).walk rfl
    have hbefore : (f.stat (Path.join dir name)).toOption = none := by
      obtain ⟨e, he⟩ := exists_locate_eq_error_of_blocked hname hblocked
      simp [stat, he, bind, Except.bind, Except.toOption]
    rw [hbefore]
    cases hslot : g.slot? (Path.join dir name) with
    | none =>
      obtain ⟨e, he⟩ := exists_stat_eq_error hname hwalk hslot
      rw [he hwalk]
      rfl
    | some k =>
      have hl : l = Path.names dir := by
        rw [eq_of_walk hup hwalk, List.nil_append]
      have hk : k = Path.names dir ++ [name] := by
        rw [slot?_join hname hwalk] at hslot
        split at hslot
        · cases hslot
          rw [hl]
        · cases hslot
      rw [stat_of_slot hslot, hk, find?_concat hempty]
      rfl

end Folder
end Files
end ProxyConfig
