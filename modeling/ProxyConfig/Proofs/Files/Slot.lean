import ProxyConfig.Proofs.Files.Path

/-!
# Operations at the slot of a path

The slot of a path is the location at which a file of that path can be.  Every operation on files
succeeds or fails by what lies in the slots of its paths, and it changes nothing else.

Main results:

- `create_eq_ok_iff`, `removeFile_eq_ok_iff`, `renameFile_eq_ok_iff`: when the operations succeed,
  and what they change.
- `slot?_join`: the slot of a file in a folder, which stays the same as long as the folders do.
- `exists_name_of_slot`: a slot has the last part of its path as its name.
-/

namespace ProxyConfig
namespace Files

/-- The character zero is not in the text, and the text is not too long for a path. -/
def Path.IsSound (path : String) : Prop :=
  path.toList.any (·.toNat = 0) = false ∧ path.utf8ByteSize ≤ longestPath

namespace Folder

variable {f g : Folder} {now : Time} {path : String} {l : Location}

/-- The location at which a file of a path can be. -/
def slot? (f : Folder) (path : String) : Option Location :=
  match f.locate path with
  | .ok ⟨folder, some name, false⟩ =>
    if longestName < name.utf8ByteSize then none else some (folder ++ [name])
  | _ => none

theorem slot?_eq_some_iff :
    f.slot? path = some l ↔
      ∃ folder name, f.locate path = .ok ⟨folder, some name, false⟩ ∧
        name.utf8ByteSize ≤ longestName ∧ folder ++ [name] = l := by
  unfold slot?
  constructor
  · intro h
    split at h
    · rename_i folder name hlocate
      split at h
      · cases h
      · rename_i hshort
        cases h
        exact ⟨folder, name, hlocate, Nat.not_lt.1 hshort, rfl⟩
    · cases h
  · rintro ⟨folder, name, hlocate, hshort, rfl⟩
    rw [hlocate]
    exact if_neg (Nat.not_lt.2 hshort)

/-- A path that is sound and not empty leads to a place by its names. -/
theorem locate_eq_ok_iff {p : Place} :
    f.locate path = .ok p ↔ Path.IsSound path ∧ path ≠ "" ∧
      f.placeOf (Path.names path) (Path.ending path) = .ok p := by
  unfold locate Path.IsSound
  by_cases hzero : path.toList.any (·.toNat = 0) = true
  · simp [hzero]
  · rw [if_neg hzero]
    rw [Bool.not_eq_true] at hzero
    by_cases hempty : path = ""
    · simp [hempty]
    · rw [if_neg hempty]
      by_cases hlong : longestPath < path.utf8ByteSize
      · simp [hlong, Nat.not_le.2 hlong]
      · simp [hlong, hzero, hempty, Nat.not_lt.1 hlong]

/-- A place with a name lies in the folder to which the names before it lead. -/
theorem walk_of_placeOf {names : List String} {ending : Path.Ending} {demands : Bool}
    {folder : Location} {name : String}
    (h : f.placeOf names ending = .ok ⟨folder, some name, demands⟩) :
    (ending ≠ .self ∧ demands = decide (ending = .slash)) ∧ name ≠ ".." ∧
      ∃ front, names = front ++ [name] ∧ f.walk [] front = .ok folder := by
  cases leadsTo_of_placeOf h with
  | inside hnames hup hself hwalk => exact ⟨⟨hself, rfl⟩, hup, _, hnames, hwalk⟩

/-- A slot lies in a folder. -/
theorem holdsFolder_of_slot (h : f.slot? path = some l) :
    ∃ folder name, l = folder ++ [name] ∧ f.holdsFolder folder = true := by
  obtain ⟨folder, name, hlocate, _, rfl⟩ := slot?_eq_some_iff.1 h
  obtain ⟨_, _, front, _, hwalk⟩ := walk_of_placeOf (locate_eq_ok_iff.1 hlocate).2.2
  exact ⟨folder, name, rfl, holdsFolder_of_walk holdsFolder_nil hwalk⟩

/-- Names lead to the same place as long as the folders stay. -/
theorem placeOf_mono {names : List String} {ending : Path.Ending} {p : Place}
    (hfg : FoldersWithin f g) (h : f.placeOf names ending = .ok p) :
    g.placeOf names ending = .ok p :=
  ((leadsTo_of_placeOf h).mono hfg).placeOf

theorem slot?_mono (hfg : FoldersWithin f g) (h : f.slot? path = some l) :
    g.slot? path = some l := by
  obtain ⟨folder, name, hlocate, hshort, hl⟩ := slot?_eq_some_iff.1 h
  refine slot?_eq_some_iff.2 ⟨folder, name, ?_, hshort, hl⟩
  obtain ⟨hsound, hne, hplace⟩ := locate_eq_ok_iff.1 hlocate
  exact locate_eq_ok_iff.2 ⟨hsound, hne, placeOf_mono hfg hplace⟩

/-- A path has the same slot in trees with the same folders. -/
theorem slot?_congr (h : SameFolders f g) (path : String) : g.slot? path = f.slot? path := by
  apply Option.ext
  intro l
  constructor
  · exact slot?_mono h.symm.foldersWithin
  · exact slot?_mono h.foldersWithin

/-! ## Operations -/

/-- The entry at a slot. -/
theorem stat_of_slot (h : f.slot? path = some l) :
    f.stat path = (f.find? l).elim (.error .notFound) .ok := by
  obtain ⟨folder, name, hlocate, hshort, rfl⟩ := slot?_eq_some_iff.1 h
  unfold stat
  rw [hlocate]
  simp only [bind, Except.bind, entryAt, if_neg (Nat.not_lt.2 hshort), Place.location]
  cases f.find? (folder ++ [name]) <;> simp

/-- A file is opened where no folder is. -/
theorem create_eq_ok_iff :
    f.create now path = .ok g ↔
      ∃ l, f.slot? path = some l ∧ f.holdsFolder l = false ∧ f.put (.file [] now) l = g := by
  unfold create slot?
  cases hlocate : f.locate path with
  | error e => simp [bind, Except.bind]
  | ok p =>
    obtain ⟨folder, name, demands⟩ := p
    cases name with
    | none => simp [bind, Except.bind]
    | some name =>
      cases demands with
      | true => simp [bind, Except.bind]
      | false =>
        by_cases hlong : longestName < name.utf8ByteSize
        · simp [bind, Except.bind, hlong]
        · simp only [bind, Except.bind, hlong, if_false, Bool.false_eq_true, Place.location,
            Option.some.injEq, exists_eq_left', holdsFolder]
          cases hfind : f.find? (folder ++ [name]) with
          | none => simp
          | some e => cases e <;> simp [Entry.isFolder]

/-- More is written to the file in a slot. -/
theorem append_of_slot {old content : Content} {time : Time} (h : f.slot? path = some l)
    (hfile : f.find? l = some (.file old time)) :
    f.append now path content = f.put (.file (old ++ content) now) l := by
  obtain ⟨folder, name, hlocate, _, rfl⟩ := slot?_eq_some_iff.1 h
  unfold append
  simp only [hlocate, Place.location, hfile]

/-- What is removed is a file in a slot. -/
theorem removeFile_eq_ok_iff :
    f.removeFile path = .ok g ↔
      ∃ l content time, f.slot? path = some l ∧ f.find? l = some (.file content time) ∧
        f.erase l = g := by
  unfold removeFile slot?
  cases hlocate : f.locate path with
  | error e => simp [bind, Except.bind]
  | ok p =>
    obtain ⟨folder, name, demands⟩ := p
    cases name with
    | none => simp [bind, Except.bind, entryAt]
    | some name =>
      cases demands with
      | true =>
        -- A path that demands a folder has no slot, and only a folder would be found.
        simp only [bind, Except.bind, entryAt, Place.location]
        by_cases hlong : longestName < name.utf8ByteSize
        · simp [hlong]
        · cases hfind : f.find? (folder ++ [name]) with
          | none => simp [hlong]
          | some e => cases e <;> simp [hlong, Entry.isFolder]
      | false =>
        simp only [bind, Except.bind, entryAt, Place.location]
        by_cases hlong : longestName < name.utf8ByteSize
        · simp [hlong]
        · simp only [hlong, if_false, Bool.false_and, Bool.false_eq_true, Option.some.injEq,
            exists_and_left, exists_eq_left']
          cases hfind : f.find? (folder ++ [name]) with
          | none => simp
          | some e => cases e <;> simp

/-- A file is given another place where no folder is. -/
theorem renameFile_eq_ok_iff {source target : String} {content : Content} {time : Time}
    (hsource : f.slot? source = some l) (hfile : f.find? l = some (.file content time)) :
    f.renameFile source target = .ok g ↔
      ∃ k, f.slot? target = some k ∧ f.holdsFolder k = false ∧
        (if l = k then f else (f.erase l).put (.file content time) k) = g := by
  obtain ⟨folder, name, hlocate, hshort, rfl⟩ := slot?_eq_some_iff.1 hsource
  have hentry : f.entryAt ⟨folder, some name, false⟩ = .ok (.file content time) := by
    simp only [entryAt, if_neg (Nat.not_lt.2 hshort), Place.location, hfile, Bool.false_and,
      Bool.false_eq_true, if_false]
  unfold renameFile slot?
  rw [hlocate]
  cases htarget : f.locate target with
  | error e => simp [bind, Except.bind]
  | ok q =>
    obtain ⟨folder', name', demands⟩ := q
    cases name' with
    | none => simp [bind, Except.bind, hentry]
    | some name' =>
      cases demands with
      | true => simp [bind, Except.bind, hentry]
      | false =>
        by_cases hlong : longestName < name'.utf8ByteSize
        · simp [bind, Except.bind, hentry, hlong]
        · simp only [bind, Except.bind, hentry, hlong, if_false, Bool.false_eq_true,
            Place.location, Option.some.injEq, exists_eq_left', holdsFolder]
          cases hfind : f.find? (folder' ++ [name']) with
          | none => simp
          | some e => cases e <;> simp [Entry.isFolder]

/-! ## Files in a folder -/

section Join

variable {dir name : String}

/-- A sound path inside a folder leads to a name in the folder. -/
theorem locate_join (hname : Path.IsName name) (hwalk : f.walk [] (Path.names dir) = .ok l)
    (hsound : Path.IsSound (Path.join dir name)) :
    f.locate (Path.join dir name) = .ok ⟨l, some name, false⟩ := by
  refine locate_eq_ok_iff.2 ⟨hsound, Path.join_ne_empty dir hname, ?_⟩
  rw [Path.names_join dir hname, Path.ending_join dir hname]
  exact (LeadsTo.inside rfl hname.ne_above (by decide) hwalk).placeOf

/-- A path that is not sound leads nowhere, for the same reason in every tree. -/
theorem exists_locate_eq_error (hsound : ¬ Path.IsSound path) :
    ∃ e, ∀ f : Folder, f.locate path = .error e := by
  unfold locate
  split
  · exact ⟨_, fun _ => rfl⟩
  · rename_i hzero
    split
    · exact ⟨_, fun _ => rfl⟩
    · split
      · exact ⟨_, fun _ => rfl⟩
      · rename_i hlong
        exact absurd ⟨by simpa using hzero, Nat.not_lt.1 hlong⟩ hsound

/-- A path inside a folder that cannot be reached leads nowhere. -/
theorem exists_locate_eq_error_of_blocked (hname : Path.IsName name)
    (hblocked : ∀ l, f.walk [] (Path.names dir) ≠ .ok l) :
    ∃ e, f.locate (Path.join dir name) = .error e := by
  cases hlocate : f.locate (Path.join dir name) with
  | error e => exact ⟨e, rfl⟩
  | ok p =>
    have hleads := leadsTo_of_placeOf (locate_eq_ok_iff.1 hlocate).2.2
    rw [Path.names_join dir hname] at hleads
    cases hleads with
    | itself hwalk =>
      obtain ⟨l, hdir, _⟩ := walk_append_eq_ok_iff.1 hwalk
      exact absurd hdir (hblocked l)
    | @inside _ _ l hnames _ _ hwalk =>
      obtain ⟨rfl, _⟩ := List.append_inj' hnames rfl
      exact absurd hwalk (hblocked l)

open Classical in
/-- The slot of a file in a folder depends only on where the folder is. -/
theorem slot?_join (hname : Path.IsName name) (hwalk : f.walk [] (Path.names dir) = .ok l) :
    f.slot? (Path.join dir name) =
      if Path.IsSound (Path.join dir name) ∧ name.utf8ByteSize ≤ longestName then
        some (l ++ [name])
      else none := by
  by_cases hsound : Path.IsSound (Path.join dir name)
  · unfold slot?
    rw [locate_join hname hwalk hsound]
    by_cases hshort : name.utf8ByteSize ≤ longestName
    · simp [hsound, hshort, Nat.not_lt.2 hshort]
    · simp [hsound, hshort, Nat.not_le.1 hshort]
  · obtain ⟨e, he⟩ := exists_locate_eq_error hsound
    unfold slot?
    simp [he, hsound]

/-- A file in a folder has no entry without a slot, for the same reason in every tree in which the
folder can be reached. -/
theorem exists_stat_eq_error (hname : Path.IsName name)
    (hwalk : f.walk [] (Path.names dir) = .ok l) (hslot : f.slot? (Path.join dir name) = none) :
    ∃ e, ∀ {g : Folder} {k : Location}, g.walk [] (Path.names dir) = .ok k →
      g.stat (Path.join dir name) = .error e := by
  by_cases hsound : Path.IsSound (Path.join dir name)
  · have hlong : longestName < name.utf8ByteSize := by
      by_contra hshort
      rw [slot?_join hname hwalk, if_pos ⟨hsound, Nat.not_lt.1 hshort⟩] at hslot
      cases hslot
    refine ⟨.nameTooLong, ?_⟩
    intro g k hwalk'
    unfold stat
    rw [locate_join hname hwalk' hsound]
    simp [bind, Except.bind, entryAt, hlong]
  · obtain ⟨e, he⟩ := exists_locate_eq_error hsound
    refine ⟨e, ?_⟩
    intro g k _
    simp [stat, he, bind, Except.bind]

/-- Trees with the same folders show the same entry of a file in a folder if they hold the same in
its slot. -/
theorem stat_join_congr (hname : Path.IsName name) (hwalk : f.walk [] (Path.names dir) = .ok l)
    (hsame : SameFolders f g)
    (hfind : ∀ k, f.slot? (Path.join dir name) = some k → g.find? k = f.find? k) :
    g.stat (Path.join dir name) = f.stat (Path.join dir name) := by
  cases hslot : f.slot? (Path.join dir name) with
  | none =>
    obtain ⟨e, he⟩ := exists_stat_eq_error hname hwalk hslot
    rw [he hwalk, he (walk_mono hsame.foldersWithin hwalk)]
  | some k =>
    have hslot' : g.slot? (Path.join dir name) = some k := by
      rw [slot?_congr hsame]
      exact hslot
    rw [stat_of_slot hslot, stat_of_slot hslot', hfind k hslot]

end Join
end Folder
/-! ## Names of slots -/

open Folder

/-- A slot has the last part of its path as its name, and it lies where the parts before lead. -/
theorem Folder.exists_parts_of_slot {f : Folder} {path : String} {l : Location}
    (h : f.slot? path = some l) :
    ∃ before folder name, Path.parts path = before ++ [name] ∧
      f.walk [] (before.filter fun p => p ≠ "" ∧ p ≠ ".") = .ok folder ∧ l = folder ++ [name] := by
  obtain ⟨folder, name, hlocate, _, rfl⟩ := slot?_eq_some_iff.1 h
  obtain ⟨⟨hself, hslash⟩, _, front, hnames, hwalk⟩ :=
    walk_of_placeOf (locate_eq_ok_iff.1 hlocate).2.2
  unfold Path.names at hnames
  cases hparts : (Path.parts path).getLast? with
  | none =>
    rw [List.getLast?_eq_none_iff.1 hparts] at hnames
    simp at hnames
  | some part =>
    obtain ⟨before, hbefore⟩ := List.getLast?_eq_some_iff.1 hparts
    have hending : Path.ending path = .nothing := by
      cases hcases : Path.ending path with
      | nothing => rfl
      | slash => simp [hcases] at hslash
      | self => exact absurd hcases hself
    obtain ⟨hempty, hdot⟩ := Path.getLast?_parts_of_ending hending
    rw [hparts, Ne, Option.some.injEq] at hempty hdot
    have hpart : [part].filter (fun p => decide (p ≠ "" ∧ p ≠ ".")) = [part] := by
      simp [hempty, hdot]
    rw [hbefore, List.filter_append, hpart] at hnames
    obtain ⟨hfront, hname⟩ := List.append_inj' hnames rfl
    refine ⟨before, folder, name, ?_, hfront ▸ hwalk, rfl⟩
    rw [hbefore, hname]

/-- A slot has the last part of its path as its name. -/
theorem Folder.exists_name_of_slot {f : Folder} {path : String} {l : Location}
    (h : f.slot? path = some l) :
    ∃ folder name, l = folder ++ [name] ∧ (Path.parts path).getLast? = some name := by
  obtain ⟨before, folder, name, hparts, _, hl⟩ := exists_parts_of_slot h
  exact ⟨folder, name, hl, by rw [hparts, List.getLast?_concat]⟩

/-- The name of the slot of a path that ends in a text without slashes ends in this text. -/
theorem Folder.exists_ending_of_slot {f : Folder} {path : String} {front ending : List Char}
    {l : Location} (hpath : path.toList = front ++ ending) (hending : '/' ∉ ending)
    (h : f.slot? path = some l) :
    ∃ folder stem, l = folder ++ [String.ofList (stem ++ ending)] := by
  obtain ⟨folder, name, rfl, hlast⟩ := exists_name_of_slot h
  obtain ⟨before, stem, _, hpieces⟩ := Path.pieces_append front hending
  refine ⟨folder, stem, ?_⟩
  rw [Path.parts, hpath, hpieces, List.map_append, List.map_singleton,
    List.getLast?_concat] at hlast
  rw [Option.some.inj hlast]

end Files
end ProxyConfig
