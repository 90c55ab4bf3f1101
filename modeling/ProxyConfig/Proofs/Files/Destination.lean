import ProxyConfig.Proofs.Files.FileMap

/-!
# Destinations of paths

Names lead from folder to folder, and a name of two dots leads up.  So the text of a path alone tells
where its file is, in every tree in which the path can be followed at all.

Main results:

- `eq_destination_of_slot`: a slot is the destination of its path.
- `Path.destination_join`: the destination of a file in a folder.
- `writes_write`: how writing a file can end, and what it does to the files.
- `write_spec`: a file that is written is the only one that changes.
- `WriteEffect.fileAt?_eq`: a replacement changes no file but its own two.
-/

namespace ProxyConfig
namespace Files

namespace Path

/-- The location one name further. -/
def follow (l : Location) (name : String) : Location :=
  if name = ".." then l.dropLast else l ++ [name]

/-- The location to which a path leads if it can be followed. -/
def destination (path : String) : Location :=
  (names path).foldl follow []

/-- A file in a folder lies where the folder is, under its name. -/
theorem destination_join (dir : String) {name : String} (hname : IsName name) :
    destination (join dir name) = destination dir ++ [name] := by
  unfold destination
  rw [names_join dir hname, List.foldl_append]
  exact if_neg hname.ne_above

end Path

namespace Folder

variable {f g : Folder} {origin l : Location} {path : String} {names : List String}
  {now : Time} {content : Content}

/-- Names that can be followed lead to their destination. -/
theorem eq_foldl_of_walk (h : f.walk origin names = .ok l) : l = names.foldl Path.follow origin := by
  induction names generalizing origin with
  | nil =>
    cases h
    rfl
  | cons name rest ih =>
    obtain ⟨next, hnext, hrest⟩ := walk_cons_eq_ok_iff.1 h
    have hfollow : next = Path.follow origin name := by
      rcases enter_eq_ok_iff.1 hnext with ⟨hup, rfl⟩ | ⟨hup, _, _, rfl⟩
      · exact (if_pos hup).symm
      · exact (if_neg hup).symm
    rw [List.foldl_cons, ← hfollow]
    exact ih hrest

/-- A slot is the destination of its path. -/
theorem eq_destination_of_slot (h : f.slot? path = some l) : l = Path.destination path := by
  obtain ⟨folder, name, hlocate, _, rfl⟩ := slot?_eq_some_iff.1 h
  obtain ⟨_, hup, front, hnames, hwalk⟩ := walk_of_placeOf (locate_eq_ok_iff.1 hlocate).2.2
  rw [Path.destination, hnames, List.foldl_append, ← eq_foldl_of_walk hwalk]
  exact (if_neg hup).symm

/-- A file that can be read is at the destination of its path. -/
theorem read_eq_ok_iff :
    f.read path = .ok content ↔
      ∃ time, f.slot? path = some (Path.destination path) ∧
        f.fileAt? (Path.destination path) = some (content, time) := by
  have hread : f.read path = .ok content ↔ ∃ time, f.stat path = .ok (.file content time) := by
    unfold read
    cases f.stat path with
    | error e => simp [bind, Except.bind]
    | ok entry => cases entry <;> simp [bind, Except.bind]
  rw [hread]
  simp only [stat_eq_file_iff]
  constructor
  · rintro ⟨time, l, hslot, hfile⟩
    have hl := eq_destination_of_slot hslot
    subst hl
    exact ⟨time, hslot, hfile⟩
  · rintro ⟨time, hslot, hfile⟩
    exact ⟨time, _, hslot, hfile⟩

/-- A change of a tree keeps the folders and certain files. -/
structure Leaves (f : Folder) (spared : Location → Prop) (g : Folder) : Prop where
  foldersWithin : FoldersWithin f g
  files : ∀ l, spared l → g.fileAt? l = f.fileAt? l

theorem Leaves.refl (f : Folder) (spared : Location → Prop) : f.Leaves spared f :=
  ⟨FoldersWithin.refl f, fun _ _ => rfl⟩

theorem Leaves.trans {e : Folder} {spared : Location → Prop} (hef : e.Leaves spared f)
    (hfg : f.Leaves spared g) : e.Leaves spared g :=
  ⟨hef.foldersWithin.trans hfg.foldersWithin,
    fun l hl => (hfg.files l hl).trans (hef.files l hl)⟩

theorem Leaves.mono {spared spared' : Location → Prop} (h : f.Leaves spared g)
    (himp : ∀ l, spared' l → spared l) : f.Leaves spared' g :=
  ⟨h.foldersWithin, fun l hl => h.files l (himp l hl)⟩

/-- A file that was opened and then written has what was written, and it is the only file that
changes. -/
theorem alters_of_create {opened : Folder} (hcreate : f.create now path = .ok opened)
    (written : Content) :
    f.slot? path = some (Path.destination path) ∧
      f.Alters (Function.update f.fileAt? (Path.destination path) (some (written, now)))
        (opened.append now path written) := by
  obtain ⟨l, hslot, hfree, rfl⟩ := create_eq_ok_iff.1 hcreate
  obtain rfl := eq_destination_of_slot hslot
  have hopened : f.Alters (Function.update f.fileAt? (Path.destination path) (some ([], now)))
      (f.put (.file [] now) (Path.destination path)) := alters_put hslot hfree
  have hslot' : (f.put (.file [] now) (Path.destination path)).slot? path =
      some (Path.destination path) := by
    rw [slot?_congr hopened.sameFolders]
    exact hslot
  rw [append_of_slot hslot' (find?_put_slot hslot)]
  obtain ⟨hsame, hfiles⟩ : Alters _ _ ((f.put (.file [] now) (Path.destination path)).put
      (.file ([] ++ written) now) (Path.destination path)) :=
    alters_put hslot' ((hopened.sameFolders _).trans hfree)
  refine ⟨hslot, hopened.sameFolders.trans hsame, ?_⟩
  rw [hfiles, hopened.files, Function.update_idem, List.nil_append]

/-- Writing a file succeeds, or it breaks off when only a part of the content fits, or nothing
happens because the file cannot be opened. -/
inductive Writes (f : Folder) (room : Room) (now : Time) (path : String) (content : Content) :
    Folder → Except FileError Unit → Prop
  | unopened {e : FileError} (hcreate : f.create now path = .error e) :
      Writes f room now path content f (.error e)
  | written {g : Folder} (hfits : room.rest path content = [])
      (hslot : f.slot? path = some (Path.destination path))
      (hfiles : f.Alters
        (Function.update f.fileAt? (Path.destination path) (some (content, now))) g) :
      Writes f room now path content g (.ok ())
  | brokenOff {g : Folder} (hrest : room.rest path content ≠ [])
      (hslot : f.slot? path = some (Path.destination path))
      (hfiles : f.Alters (Function.update f.fileAt? (Path.destination path)
        (some (room.part path content, now))) g) :
      Writes f room now path content g (.error .noSpace)

/-- What writing a file does. -/
theorem writes_write (f : Folder) (room : Room) (now : Time) (path : String) (content : Content) :
    f.Writes room now path content (f.write room now path content).1
      (f.write room now path content).2 := by
  unfold write
  cases hcreate : f.create now path with
  | error e => exact .unopened hcreate
  | ok opened =>
    obtain ⟨hslot, hfiles⟩ := alters_of_create hcreate (room.part path content)
    by_cases hrest : room.rest path content = []
    · simp only [if_pos hrest]
      rw [Room.part_eq_of_rest hrest] at hfiles ⊢
      exact .written hrest hslot hfiles
    · simp only [if_neg hrest]
      exact .brokenOff hrest hslot hfiles

/-- What was written is what is read, and no other file has changed. -/
theorem Alters.of_written
    (h : f.Alters (Function.update f.fileAt? (Path.destination path) (some (content, now))) g)
    (hslot : f.slot? path = some (Path.destination path)) :
    g.read path = .ok content ∧ f.Leaves (fun l => l ≠ Path.destination path) g := by
  refine ⟨read_eq_ok_iff.2 ⟨now, ?_, ?_⟩, h.sameFolders.foldersWithin, ?_⟩
  · rw [slot?_congr h.sameFolders]
    exact hslot
  · rw [h.files, Function.update_self]
  · intro l hl
    rw [h.files, Function.update_of_ne hl]

/-- A file that is written as a whole has the content, and it is the only file that changes. -/
theorem write_spec {room : Room} (h : f.write room now path content = (g, .ok ())) :
    g.read path = .ok content ∧ f.Leaves (fun l => l ≠ Path.destination path) g := by
  have hwrites := writes_write f room now path content
  rw [h] at hwrites
  cases hwrites with
  | written _ hslot hfiles => exact hfiles.of_written hslot

end Folder

open Folder

/-- A step of a replacement changes files in the slots of the target and the temporary file only. -/
theorem WriteEffect.fileAt?_eq_of_slots {base f g : Folder} {now : Time} {path : String}
    {content : Content} {piece : Nat} {stage : WriteStage} {step : WriteStep} {m : Location}
    (h : WriteEffect base now path content piece f g stage step)
    (htarget : base.slot? path ≠ some m) (htemporary : base.slot? (temporaryPath path) ≠ some m) :
    g.fileAt? m = f.fileAt? m := by
  have hne : ∀ {l : Location}, base.slot? (temporaryPath path) = some l → m ≠ l := by
    rintro l hslot rfl
    exact htemporary hslot
  cases h with
  | opened hslot _ _ hfiles | wrote hslot _ hfiles | removed hslot hfiles =>
    rw [hfiles.files, Function.update_of_ne (hne hslot)]
  | replaced hslot hk _ hfiles =>
    have hmk : m ≠ _ := fun heq => htarget (heq ▸ hk)
    rw [hfiles.files, Function.update_of_ne hmk, Function.update_of_ne (hne hslot)]
  | refused hsame | written hsame | missed _ _ hsame | unremoved hsame => rw [hsame]

/-- A step of a replacement changes no file but the target and the temporary file. -/
theorem WriteEffect.fileAt?_eq {base f g : Folder} {now : Time} {path : String} {content : Content}
    {piece : Nat} {stage : WriteStage} {step : WriteStep} {m : Location}
    (h : WriteEffect base now path content piece f g stage step)
    (htarget : m ≠ Path.destination path)
    (htemporary : m ≠ Path.destination (temporaryPath path)) : g.fileAt? m = f.fileAt? m :=
  h.fileAt?_eq_of_slots (fun hslot => htarget (eq_destination_of_slot hslot))
    fun hslot => htemporary (eq_destination_of_slot hslot)

end Files
end ProxyConfig
