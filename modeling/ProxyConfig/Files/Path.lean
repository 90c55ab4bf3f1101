import ProxyConfig.Files.Tree

/-!
# Paths

A path is a text of names separated by slashes, and it is followed from the working folder.  The
text of a path matters beyond the place that it leads to: a name can be too long, a final slash
demands a folder, and a final dot demands that this folder is there.
-/

namespace ProxyConfig
namespace Files

/-- Why an operation on files fails. -/
inductive FileError where
  | notFound
  | busy
  | exists
  | notFolder
  | isFolder
  | nameTooLong
  /-- The path holds the character zero. -/
  | invalidPath
  /-- The content of a file that is read as text is not UTF-8. -/
  | invalidText
  /-- Not everything that is written fits. -/
  | noSpace
deriving Repr, DecidableEq, Inhabited

/-- The text of an error. -/
def FileError.message : FileError → String
  | .notFound => "No such file or directory (os error 2)"
  | .busy => "Device or resource busy (os error 16)"
  | .exists => "File exists (os error 17)"
  | .notFolder => "Not a directory (os error 20)"
  | .isFolder => "Is a directory (os error 21)"
  | .nameTooLong => "File name too long (os error 36)"
  | .invalidPath => "file name contained an unexpected NUL byte"
  | .invalidText => "stream did not contain valid UTF-8"
  | .noSpace => "No space left on device (os error 28)"

/-- The longest name of an entry, in bytes. -/
def longestName : Nat := 255

/-- The longest path, in bytes. -/
def longestPath : Nat := 4095

namespace Path

/-- A path inside a folder. -/
def join (dir name : String) : String :=
  if dir = "" then name
  else if dir.toList.getLast? = some '/' then dir ++ name
  else dir ++ "/" ++ name

/-- The parts of a path between slashes. -/
def parts (path : String) : List String :=
  (Text.pieces '/' path.toList).map String.ofList

/-- The names of a path, which are the parts that lead from one folder to another. -/
def names (path : String) : List String :=
  (parts path).filter fun p => p ≠ "" ∧ p ≠ "."

/-- What follows the last name of a path. -/
inductive Ending where
  | nothing
  /-- Slashes, so the name is one of a folder. -/
  | slash
  /-- A part that stands for the folder itself, which is entered therefore. -/
  | self
deriving Repr, DecidableEq, Inhabited

/-- What a path ends in. -/
def ending (path : String) : Ending :=
  if ((parts path).filter fun p => p ≠ "").getLast? = some "." then .self
  else if (parts path).getLast? = some "" then .slash
  else .nothing

end Path

/-- A place that a path leads to. -/
structure Place where
  /-- The folder that the place lies in, or that it is. -/
  folder : Location
  /-- The name in the folder; missing when the place is the folder itself. -/
  name : Option String
  /-- The path demands a folder. -/
  demandsFolder : Bool
deriving Repr, DecidableEq

/-- The location of a place. -/
def Place.location (p : Place) : Location :=
  match p.name with
  | some name => p.folder ++ [name]
  | none => p.folder

namespace Folder

/-- Go from a folder to the one of a name inside it, or above it. -/
def enter (f : Folder) (origin : Location) (name : String) : Except FileError Location :=
  if name = ".." then .ok origin.dropLast
  else if longestName < name.utf8ByteSize then .error .nameTooLong
  else
    match f.find? (origin ++ [name]) with
    | none => .error .notFound
    | some (.file ..) => .error .notFolder
    | some (.folder _) => .ok (origin ++ [name])

/-- Go along names. -/
def walk (f : Folder) (origin : Location) : List String → Except FileError Location
  | [] => .ok origin
  | name :: rest => do f.walk (← f.enter origin name) rest

/-- The place of names and what follows them. -/
def placeOf (f : Folder) (names : List String) (ending : Path.Ending) : Except FileError Place := do
  if ending = .self then return ⟨← f.walk [] names, none, true⟩
  else
    match names.getLast? with
    | none => return ⟨[], none, true⟩
    | some last =>
      let folder ← f.walk [] names.dropLast
      if last = ".." then return ⟨← f.enter folder last, none, true⟩
      else return ⟨folder, some last, ending = .slash⟩

/-- The place that a path leads to. -/
def locate (f : Folder) (path : String) : Except FileError Place :=
  if path.toList.any (·.toNat = 0) then .error .invalidPath
  else if path = "" then .error .notFound
  else if longestPath < path.utf8ByteSize then .error .nameTooLong
  else f.placeOf (Path.names path) (Path.ending path)

/-- The entry at a place. -/
def entryAt (f : Folder) (p : Place) : Except FileError Entry :=
  match p.name with
  | none => .ok (.folder ((f.find? p.folder).map Entry.entries |>.getD []))
  | some name =>
    if longestName < name.utf8ByteSize then .error .nameTooLong
    else
      match f.find? p.location with
      | none => .error .notFound
      | some e => if p.demandsFolder && !e.isFolder then .error .notFolder else .ok e

end Folder
end Files
end ProxyConfig
