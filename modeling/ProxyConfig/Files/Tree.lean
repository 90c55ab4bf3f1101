import ProxyConfig.Text.Cut

/-!
# Trees of files

A folder holds files and folders by name, and an entry is reached by the names on the way to it.
Changing one entry leaves alone everything that does not lie on the way to it or inside it.

Main results:

- `Folder.find?_put`: what was put at a place is found there.
- `Folder.find?_put_of_disjoint`: an entry that lies neither above nor below the place stays as it
  is.
- `Folder.find?_erase`: what was erased is not found.
-/

namespace ProxyConfig
namespace Files

/-- The content of a file. -/
abbrev Content := List UInt8

/-- A point of time, in seconds. -/
abbrev Time := Int

/-- An entry of a folder. -/
inductive Entry where
  | file (content : Content) (modified : Time)
  | folder (entries : List (String × Entry))
deriving Repr, Inhabited

/-- The entries of a folder with their names. -/
abbrev Folder := List (String × Entry)

/-- The names on the way to an entry. -/
abbrev Location := List String

/-- The entry is a folder. -/
def Entry.isFolder : Entry → Bool
  | .file .. => false
  | .folder _ => true

/-- The entries inside, of which a file has none. -/
def Entry.entries : Entry → Folder
  | .file .. => []
  | .folder entries => entries

namespace Folder

/-- The entry of a name. -/
def child? (name : String) : Folder → Option Entry
  | [] => none
  | (n, e) :: rest => if n = name then some e else child? name rest

/-- Put an entry under a name, at its place in the order of names. -/
def putChild (name : String) (e : Entry) : Folder → Folder
  | [] => [(name, e)]
  | (n, old) :: rest =>
    if n = name then (n, e) :: rest
    else if name < n then (name, e) :: (n, old) :: rest
    else (n, old) :: putChild name e rest

/-- Take the entries of a name away. -/
def eraseChild (name : String) (f : Folder) : Folder :=
  f.filter fun c => c.1 ≠ name

theorem child?_putChild (name other : String) (e : Entry) (f : Folder) :
    child? other (putChild name e f) = if name = other then some e else child? other f := by
  induction f with
  | nil => simp [putChild, child?]
  | cons c rest ih =>
    obtain ⟨n, old⟩ := c
    by_cases h : n = name
    · subst h
      by_cases ho : n = other <;> simp [putChild, child?, ho]
    · by_cases hlt : name < n
      · by_cases ho : name = other
        · subst ho
          simp [putChild, child?, h, hlt]
        · simp [putChild, child?, h, hlt, ho]
      · by_cases ho : name = other
        · subst ho
          simp [putChild, child?, h, hlt, ih]
        · by_cases hn : n = other
          · subst hn
            simp [putChild, child?, h, hlt, ho]
          · simp [putChild, child?, h, hlt, hn, ho, ih]

theorem child?_eraseChild (name other : String) (f : Folder) :
    child? other (eraseChild name f) = if name = other then none else child? other f := by
  induction f with
  | nil => simp [eraseChild, child?]
  | cons c rest ih =>
    obtain ⟨n, e⟩ := c
    simp only [eraseChild] at ih
    by_cases h : n = name
    · subst h
      by_cases ho : n = other
      · subst ho
        simpa [eraseChild, child?] using ih
      · simpa [eraseChild, child?, ho] using ih
    · by_cases ho : name = other
      · subst ho
        simpa [eraseChild, child?, h] using ih
      · by_cases hn : n = other
        · subst hn
          simp [eraseChild, child?, h, ho]
        · simpa [eraseChild, child?, h, hn, ho] using ih

/-- The entry at a location. -/
def find? (f : Folder) : Location → Option Entry
  | [] => some (.folder f)
  | name :: rest =>
    match f.child? name with
    | none => none
    | some e => if rest = [] then some e else if e.isFolder then find? e.entries rest else none

/-- Put an entry at a location.  The folder that is to hold it has to exist. -/
def put (f : Folder) (e : Entry) : Location → Folder
  | [] => f
  | [name] => putChild name e f
  | name :: rest =>
    match f.child? name with
    | some (.folder inner) => putChild name (.folder (put inner e rest)) f
    | _ => f

/-- Take the entry at a location away. -/
def erase (f : Folder) : Location → Folder
  | [] => f
  | [name] => eraseChild name f
  | name :: rest =>
    match f.child? name with
    | some (.folder inner) => putChild name (.folder (erase inner rest)) f
    | _ => f

@[simp]
theorem find?_nil (f : Folder) : f.find? [] = some (.folder f) := rfl

@[simp]
theorem find?_singleton (f : Folder) (name : String) : f.find? [name] = f.child? name := by
  unfold find?
  cases f.child? name <;> simp

/-- A folder lies at a location. -/
def holdsFolder (f : Folder) (l : Location) : Bool :=
  (f.find? l).any Entry.isFolder

theorem find?_cons_cons (f : Folder) (a b : String) (l : Location) :
    f.find? (a :: b :: l) =
      match f.child? a with
      | some (.folder inner) => Folder.find? inner (b :: l)
      | _ => none := by
  conv => lhs; unfold find?
  cases f.child? a with
  | none => rfl
  | some e => cases e <;> simp [Entry.isFolder, Entry.entries]

theorem put_cons_cons (f : Folder) (e : Entry) (a b : String) (l : Location) :
    f.put e (a :: b :: l) =
      match f.child? a with
      | some (.folder inner) => putChild a (.folder (Folder.put inner e (b :: l))) f
      | _ => f := rfl

theorem erase_cons_cons (f : Folder) (a b : String) (l : Location) :
    f.erase (a :: b :: l) =
      match f.child? a with
      | some (.folder inner) => putChild a (.folder (Folder.erase inner (b :: l))) f
      | _ => f := rfl

/-- What was put at a place is found there, if its folder exists. -/
theorem find?_put {f : Folder} {e : Entry} {l : Location} {name : String}
    (h : f.holdsFolder l = true) : (f.put e (l ++ [name])).find? (l ++ [name]) = some e := by
  induction l generalizing f with
  | nil => simp [put, child?_putChild]
  | cons a rest ih =>
    cases rest with
    | nil =>
      simp only [holdsFolder, find?_singleton] at h
      match hc : f.child? a with
      | none => simp [hc] at h
      | some (.file _ _) => simp [hc, Entry.isFolder] at h
      | some (.folder inner) =>
        simp [put, hc, find?_cons_cons, child?_putChild]
    | cons b rest =>
      simp only [holdsFolder, find?_cons_cons] at h
      match hc : f.child? a with
      | none => simp [hc] at h
      | some (.file _ _) => simp [hc] at h
      | some (.folder inner) =>
        rw [hc] at h
        have hi := ih (f := inner) h
        simp only [List.cons_append] at hi ⊢
        rw [put_cons_cons, hc, find?_cons_cons, child?_putChild, if_pos rfl]
        exact hi

/-- Neither location lies on the way to the other. -/
def Disjoint (a b : Location) : Prop :=
  ¬ a <+: b ∧ ¬ b <+: a

theorem Disjoint.tail {a : String} {l m : Location} (h : Disjoint (a :: l) (a :: m)) :
    Disjoint l m :=
  ⟨fun p => h.1 (by simpa using p), fun p => h.2 (by simpa using p)⟩

/-- What lies neither on the way to a place nor inside it stays as it is when something is put
there. -/
theorem find?_put_of_disjoint {f : Folder} {e : Entry} {l m : Location} (h : Disjoint l m) :
    (f.put e l).find? m = f.find? m := by
  induction l generalizing f m with
  | nil => exact absurd (List.nil_prefix) h.1
  | cons a rest ih =>
    cases m with
    | nil => exact absurd (List.nil_prefix) h.2
    | cons b m =>
      by_cases hab : a = b
      · subst hab
        have ht := h.tail
        cases rest with
        | nil => exact absurd List.nil_prefix ht.1
        | cons c rest =>
          cases m with
          | nil => exact absurd List.nil_prefix ht.2
          | cons d m =>
            rw [put_cons_cons]
            match hc : f.child? a with
            | none => simp
            | some (.file _ _) => simp
            | some (.folder inner) =>
              simp [find?_cons_cons, child?_putChild, hc, ih ht]
      · have hput : ∀ x : Entry, (putChild a x f).find? (b :: m) = f.find? (b :: m) := by
          intro x
          conv => lhs; unfold find?
          conv => rhs; unfold find?
          rw [child?_putChild, if_neg hab]
        cases rest with
        | nil => simpa [put] using hput e
        | cons c rest =>
          rw [put_cons_cons]
          match hc : f.child? a with
          | none => simp
          | some (.file _ _) => simp
          | some (.folder inner) => exact hput _

/-- What was erased is not found. -/
theorem find?_erase {f : Folder} {l : Location} (h : l ≠ []) : (f.erase l).find? l = none := by
  induction l generalizing f with
  | nil => exact absurd rfl h
  | cons a rest ih =>
    cases rest with
    | nil => simp [erase, child?_eraseChild]
    | cons b rest =>
      rw [erase_cons_cons]
      match hc : f.child? a with
      | none => simp [find?_cons_cons, hc]
      | some (.file _ _) => simp [find?_cons_cons, hc]
      | some (.folder inner) =>
        simp [find?_cons_cons, child?_putChild, ih]

/-- What lies neither on the way to a place nor inside it stays when the place is erased. -/
theorem find?_erase_of_disjoint {f : Folder} {l m : Location} (h : Disjoint l m) :
    (f.erase l).find? m = f.find? m := by
  induction l generalizing f m with
  | nil => exact absurd (List.nil_prefix) h.1
  | cons a rest ih =>
    cases m with
    | nil => exact absurd (List.nil_prefix) h.2
    | cons b m =>
      by_cases hab : a = b
      · subst hab
        have ht := h.tail
        cases rest with
        | nil => exact absurd List.nil_prefix ht.1
        | cons c rest =>
          cases m with
          | nil => exact absurd List.nil_prefix ht.2
          | cons d m =>
            rw [erase_cons_cons]
            match hc : f.child? a with
            | none => simp
            | some (.file _ _) => simp
            | some (.folder inner) =>
              simp [find?_cons_cons, child?_putChild, hc, ih ht]
      · cases rest with
        | nil =>
          simp only [erase]
          conv => lhs; unfold find?
          conv => rhs; unfold find?
          rw [child?_eraseChild, if_neg hab]
        | cons c rest =>
          rw [erase_cons_cons]
          match hc : f.child? a with
          | none => simp
          | some (.file _ _) => simp
          | some (.folder inner) =>
            simp only
            conv => lhs; unfold find?
            conv => rhs; unfold find?
            rw [child?_putChild, if_neg hab]

end Folder
end Files
end ProxyConfig
