import ProxyConfig.Files.Atomic
import ProxyConfig.Proofs.Files.Tree
import ProxyConfig.Proofs.Text.Cut

/-!
# Following paths

A path into a folder goes along the names of the folder and then to one name more.  Where it leads
is decided by the folders on the way, so it leads to the same place as long as these stay.

Main results:

- `walk_mono`: a way along folders stays when the folders do.
- `leadsTo_of_placeOf`, `LeadsTo.placeOf`: the places to which names lead.
- `Path.names_join`: the names of a path inside a folder.
- `temporaryPath_join`: the temporary file lies in the same folder.
-/

namespace ProxyConfig
namespace Files

/-! ## Ways along folders -/

namespace Folder

variable {f g : Folder} {origin l : Location} {name : String} {names : List String}

/-- What it means to enter a folder. -/
theorem enter_eq_ok_iff :
    f.enter origin name = .ok l ↔
      (name = ".." ∧ l = origin.dropLast) ∨
      (name ≠ ".." ∧ name.utf8ByteSize ≤ longestName ∧
        f.holdsFolder (origin ++ [name]) = true ∧ l = origin ++ [name]) := by
  unfold enter
  by_cases hup : name = ".."
  · rw [if_pos hup]
    constructor
    · intro h
      cases h
      exact Or.inl ⟨hup, rfl⟩
    · rintro (⟨_, rfl⟩ | ⟨hne, _⟩)
      · rfl
      · exact absurd hup hne
  · rw [if_neg hup]
    by_cases hlong : longestName < name.utf8ByteSize
    · rw [if_pos hlong]
      constructor
      · intro h
        cases h
      · rintro (⟨hname, _⟩ | ⟨_, hshort, _⟩)
        · exact absurd hname hup
        · exact absurd hlong (Nat.not_lt.2 hshort)
    · rw [if_neg hlong, holdsFolder_iff]
      cases hfind : f.find? (origin ++ [name]) with
      | none => simp [hup]
      | some e => cases e <;> simp [hup, Nat.not_lt.1 hlong, eq_comm]

theorem walk_nil : f.walk origin [] = .ok origin := rfl

theorem walk_cons_eq_ok_iff :
    f.walk origin (name :: names) = .ok l ↔
      ∃ next, f.enter origin name = .ok next ∧ f.walk next names = .ok l := by
  rw [walk]
  cases f.enter origin name with
  | error e => simp [bind, Except.bind]
  | ok next => simp [bind, Except.bind]

theorem walk_append_eq_ok_iff {first rest : List String} :
    f.walk origin (first ++ rest) = .ok l ↔
      ∃ next, f.walk origin first = .ok next ∧ f.walk next rest = .ok l := by
  induction first generalizing origin with
  | nil => simp [walk_nil]
  | cons name first ih =>
    rw [List.cons_append, walk_cons_eq_ok_iff]
    constructor
    · rintro ⟨a, ha, hrest⟩
      obtain ⟨b, hb, hl⟩ := ih.1 hrest
      exact ⟨b, walk_cons_eq_ok_iff.2 ⟨a, ha, hb⟩, hl⟩
    · rintro ⟨b, hb, hl⟩
      obtain ⟨a, ha, hab⟩ := walk_cons_eq_ok_iff.1 hb
      exact ⟨a, ha, ih.2 ⟨b, hab, hl⟩⟩

/-- The folder above a folder is a folder. -/
theorem holdsFolder_dropLast (h : f.holdsFolder l = true) : f.holdsFolder l.dropLast = true := by
  by_cases hl : l = []
  · rw [hl]
    rfl
  · rw [← List.dropLast_append_getLast hl] at h
    exact holdsFolder_of_append h

/-- A way along folders leads to a folder. -/
theorem holdsFolder_of_walk (horigin : f.holdsFolder origin = true)
    (h : f.walk origin names = .ok l) : f.holdsFolder l = true := by
  induction names generalizing origin with
  | nil =>
    cases h
    exact horigin
  | cons name rest ih =>
    obtain ⟨next, hnext, hrest⟩ := walk_cons_eq_ok_iff.1 h
    refine ih ?_ hrest
    rcases enter_eq_ok_iff.1 hnext with ⟨_, rfl⟩ | ⟨_, _, hfolder, rfl⟩
    · exact holdsFolder_dropLast horigin
    · exact hfolder

/-- A way along folders stays when the folders do. -/
theorem walk_mono (hfg : FoldersWithin f g) (h : f.walk origin names = .ok l) :
    g.walk origin names = .ok l := by
  induction names generalizing origin with
  | nil => exact h
  | cons name rest ih =>
    obtain ⟨next, hnext, hrest⟩ := walk_cons_eq_ok_iff.1 h
    rw [walk_cons_eq_ok_iff]
    refine ⟨next, ?_, ih hrest⟩
    rw [enter_eq_ok_iff] at hnext ⊢
    rcases hnext with hup | ⟨hup, hlong, hfolder, hnext⟩
    · exact Or.inl hup
    · exact Or.inr ⟨hup, hlong, hfg _ hfolder, hnext⟩

/-- Without a way up, a way leads along its own names. -/
theorem eq_of_walk (hup : ".." ∉ names) (h : f.walk origin names = .ok l) :
    l = origin ++ names := by
  induction names generalizing origin with
  | nil =>
    cases h
    rw [List.append_nil]
  | cons name rest ih =>
    rw [List.mem_cons, not_or] at hup
    obtain ⟨next, hnext, hrest⟩ := walk_cons_eq_ok_iff.1 h
    rcases enter_eq_ok_iff.1 hnext with ⟨hname, _⟩ | ⟨_, _, _, rfl⟩
    · exact absurd hname.symm hup.1
    · rw [ih hup.2 hrest, List.append_assoc, List.singleton_append]

/-! ## Places of names -/

section Places

variable {ending : Path.Ending} {p : Place}

/-- Names lead to the last of them, in the folder of the others, or to a folder itself when nothing
is left to be looked for in it. -/
inductive LeadsTo (f : Folder) (names : List String) (ending : Path.Ending) : Place → Prop
  | itself {l : Location} (hwalk : f.walk [] names = .ok l)
      (hend : ending = .self ∨ names = [] ∨ names.getLast? = some "..") :
      LeadsTo f names ending ⟨l, none, true⟩
  | inside {front : List String} {last : String} {l : Location} (hnames : names = front ++ [last])
      (hup : last ≠ "..") (hself : ending ≠ .self) (hwalk : f.walk [] front = .ok l) :
      LeadsTo f names ending ⟨l, some last, ending = .slash⟩

theorem leadsTo_of_placeOf (h : f.placeOf names ending = .ok p) : f.LeadsTo names ending p := by
  unfold placeOf at h
  by_cases hself : ending = .self
  · rw [if_pos hself] at h
    cases hwalk : f.walk [] names with
    | error e => simp [hwalk, bind, Except.bind] at h
    | ok l =>
      rw [hwalk] at h
      cases h
      exact .itself hwalk (Or.inl hself)
  rw [if_neg hself] at h
  rcases List.eq_nil_or_concat names with rfl | ⟨front, last, rfl⟩
  · cases h
    exact .itself walk_nil (Or.inr (Or.inl rfl))
  rw [List.concat_eq_append] at h ⊢
  rw [List.getLast?_concat, List.dropLast_concat] at h
  cases hfront : f.walk [] front with
  | error e => simp [hfront, bind, Except.bind] at h
  | ok above =>
    simp only [hfront, bind, Except.bind] at h
    by_cases hup : last = ".."
    · subst hup
      cases h
      refine .itself ?_ (Or.inr (Or.inr List.getLast?_concat))
      exact walk_append_eq_ok_iff.2 ⟨above, hfront, rfl⟩
    · rw [if_neg hup] at h
      cases h
      exact .inside rfl hup hself hfront

theorem LeadsTo.placeOf (h : f.LeadsTo names ending p) : f.placeOf names ending = .ok p := by
  unfold Folder.placeOf
  cases h with
  | itself hwalk hend =>
    by_cases hself : ending = .self
    · simp [hself, hwalk, bind, Except.bind, pure, Except.pure]
    rw [if_neg hself]
    rcases hend with hend | rfl | hlast
    · exact absurd hend hself
    · cases hwalk
      rfl
    · obtain ⟨front, rfl⟩ := List.getLast?_eq_some_iff.1 hlast
      obtain ⟨above, hfront, hrest⟩ := walk_append_eq_ok_iff.1 hwalk
      cases hrest
      rw [List.getLast?_concat, List.dropLast_concat, hfront]
      rfl
  | inside hnames hup hself hwalk =>
    rw [if_neg hself, hnames, List.getLast?_concat, List.dropLast_concat, hwalk]
    simp [hup, bind, Except.bind, pure, Except.pure]

/-- Names lead to the same place as long as the folders stay. -/
theorem LeadsTo.mono (hfg : FoldersWithin f g) (h : f.LeadsTo names ending p) :
    g.LeadsTo names ending p := by
  cases h with
  | itself hwalk hend => exact .itself (walk_mono hfg hwalk) hend
  | inside hnames hup hself hwalk => exact .inside hnames hup hself (walk_mono hfg hwalk)

/-- A way along folders has a place at its end, and there the folder is. -/
theorem exists_placeOf_of_walk {entries : Folder} (ending : Path.Ending)
    (hwalk : f.walk [] names = .ok l) (hfolder : f.find? l = some (.folder entries)) :
    ∃ p, f.placeOf names ending = .ok p ∧ f.entryAt p = .ok (.folder entries) := by
  by_cases hend : ending = .self ∨ names = [] ∨ names.getLast? = some ".."
  · exact ⟨_, (LeadsTo.itself hwalk hend).placeOf, by simp [entryAt, hfolder, Entry.entries]⟩
  simp only [not_or] at hend
  obtain ⟨hself, hne, hup⟩ := hend
  rcases List.eq_nil_or_concat names with hnil | ⟨front, last, rfl⟩
  · exact absurd hnil hne
  rw [List.concat_eq_append] at hwalk hup ⊢
  rw [List.getLast?_concat, Option.some_inj] at hup
  obtain ⟨above, habove, hrest⟩ := walk_append_eq_ok_iff.1 hwalk
  obtain ⟨next, henter, hnext⟩ := walk_cons_eq_ok_iff.1 hrest
  cases hnext
  obtain ⟨hname, _⟩ | ⟨_, hshort, _, rfl⟩ := enter_eq_ok_iff.1 henter
  · exact absurd hname hup
  · refine ⟨_, (LeadsTo.inside rfl hup hself habove).placeOf, ?_⟩
    simp [entryAt, Nat.not_lt.2 hshort, Place.location, hfolder, Entry.isFolder]

/-- If there is a folder at the place of names, they can be followed. -/
theorem LeadsTo.exists_walk (h : f.LeadsTo names ending p) {e : Entry}
    (hentry : f.entryAt p = .ok e) (hfolder : e.isFolder = true) :
    ∃ l, f.walk [] names = .ok l := by
  cases h with
  | @itself l hwalk => exact ⟨l, hwalk⟩
  | @inside front last l hnames hup _ hwalk =>
    simp only [entryAt, Place.location] at hentry
    split at hentry
    · cases hentry
    · rename_i hshort
      split at hentry
      · cases hentry
      · rename_i found hfind
        have hheld : f.holdsFolder (l ++ [last]) = true := by
          split at hentry
          · cases hentry
          · cases hentry
            rw [holdsFolder, hfind]
            exact hfolder
        rw [hnames]
        refine ⟨l ++ [last], walk_append_eq_ok_iff.2 ⟨l, hwalk, walk_cons_eq_ok_iff.2 ⟨_, ?_, rfl⟩⟩⟩
        exact enter_eq_ok_iff.2 (Or.inr ⟨hup, Nat.not_lt.1 hshort, hheld, rfl⟩)

end Places

end Folder

/-! ## Paths inside a folder -/

namespace Path

/-- A name that an entry can have. -/
structure IsName (name : String) : Prop where
  noSlash : '/' ∉ name.toList
  ne_empty : name ≠ ""
  ne_self : name ≠ "."
  ne_above : name ≠ ".."

variable {name : String}

/-- The parts of a path inside a folder are those of the folder, an empty part at the end aside, and
the name. -/
theorem parts_join (dir : String) (hname : IsName name) :
    ∃ front, parts (join dir name) = front ++ [name] ∧
      names dir = front.filter fun p => p ≠ "" ∧ p ≠ "." := by
  have hpieces : Text.pieces '/' name.toList = [name.toList] :=
    Text.pieces_of_not_mem hname.noSlash
  have hempty : names "" = [] := by decide
  unfold join
  by_cases hdir : dir = ""
  · refine ⟨[], ?_, ?_⟩
    · rw [if_pos hdir, parts, hpieces]
      simp
    · rw [hdir, hempty]
      rfl
  · rw [if_neg hdir]
    by_cases hslash : dir.toList.getLast? = some '/'
    · rw [if_pos hslash]
      obtain ⟨front, hfront⟩ := List.getLast?_eq_some_iff.1 hslash
      refine ⟨(Text.pieces '/' front).map String.ofList, ?_, ?_⟩
      · rw [parts, String.toList_append, hfront, List.append_assoc, List.singleton_append,
          Text.pieces_append_cons, hpieces]
        simp
      · rw [names, parts, hfront, Text.pieces_append_cons]
        simp [Text.pieces]
    · rw [if_neg hslash]
      refine ⟨parts dir, ?_, rfl⟩
      rw [parts, String.toList_append, String.toList_append, List.append_assoc]
      have hone : "/".toList = ['/'] := rfl
      rw [hone, List.singleton_append, Text.pieces_append_cons, hpieces]
      simp [parts]

/-- A path inside a folder leads along the names of the folder and to the name. -/
theorem names_join (dir : String) (hname : IsName name) :
    names (join dir name) = names dir ++ [name] := by
  obtain ⟨front, hparts, hdir⟩ := parts_join dir hname
  rw [names, hparts, List.filter_append, ← hdir]
  simp [hname.ne_empty, hname.ne_self]

/-- A path inside a folder ends in its last name. -/
theorem ending_join (dir : String) (hname : IsName name) : ending (join dir name) = .nothing := by
  obtain ⟨front, hparts, _⟩ := parts_join dir hname
  unfold ending
  rw [hparts, List.filter_append]
  simp [hname.ne_empty, hname.ne_self]

/-- A path with nothing after its last name has a name as its last part. -/
theorem getLast?_parts_of_ending {path : String} (h : ending path = .nothing) :
    (parts path).getLast? ≠ some "" ∧ (parts path).getLast? ≠ some "." := by
  unfold ending at h
  split at h
  · cases h
  · rename_i hself
    split at h
    · cases h
    · rename_i hslash
      refine ⟨hslash, fun hdot => hself ?_⟩
      obtain ⟨front, hparts⟩ := List.getLast?_eq_some_iff.1 hdot
      rw [hparts, List.filter_append]
      simp

theorem join_ne_empty (dir : String) (hname : IsName name) : join dir name ≠ "" := by
  intro h
  obtain ⟨front, hparts, _⟩ := parts_join dir hname
  have hempty : parts "" = [""] := by decide
  rw [h, hempty] at hparts
  have hlast := congrArg List.getLast? hparts
  rw [List.getLast?_concat] at hlast
  simp only [List.getLast?_singleton, Option.some.injEq] at hlast
  exact hname.ne_empty hlast.symm

end Path

/-- The temporary file of a file in a folder lies in the same folder. -/
theorem temporaryPath_join (dir name : String) :
    temporaryPath (Path.join dir name) = Path.join dir (name ++ ".tmp") := by
  unfold temporaryPath Path.join
  split
  · rfl
  · split <;> simp [String.append_assoc]

/-! ## Paths with an ending -/

/-- A piece without separators is appended to the last part of a list. -/
theorem Path.pieces_append {sep : Char} (s : List Char) {ending : List Char}
    (hending : sep ∉ ending) :
    ∃ front last, Text.pieces sep s = front ++ [last] ∧
      Text.pieces sep (s ++ ending) = front ++ [last ++ ending] := by
  induction s with
  | nil => exact ⟨[], [], rfl, Text.pieces_of_not_mem hending⟩
  | cons c rest ih =>
    obtain ⟨front, last, hrest, hpieces⟩ := ih
    by_cases hc : c = sep
    · refine ⟨[] :: front, last, ?_, ?_⟩
      · simp [Text.pieces, hc, hrest]
      · simp [Text.pieces, hc, hpieces]
    · cases front with
      | nil =>
        refine ⟨[], c :: last, ?_, ?_⟩
        · simp [Text.pieces, hc, hrest]
        · simp [Text.pieces, hc, hpieces]
      | cons p front =>
        refine ⟨(c :: p) :: front, last, ?_, ?_⟩
        · simp [Text.pieces, hc, hrest]
        · simp [Text.pieces, hc, hpieces]

/-- A path is extended at its last part. -/
theorem Path.parts_append (path : String) {ending : String} (hending : '/' ∉ ending.toList) :
    ∃ before last, parts path = before ++ [last] ∧
      parts (path ++ ending) = before ++ [last ++ ending] := by
  obtain ⟨front, last, hpath, happend⟩ := pieces_append path.toList hending
  refine ⟨front.map String.ofList, String.ofList last, ?_, ?_⟩
  · rw [parts, hpath, List.map_append, List.map_singleton]
  · rw [parts, String.toList_append, happend, List.map_append, List.map_singleton,
      String.ofList_append, String.ofList_toList]

end Files
end ProxyConfig
