import ProxyConfig.Files.Path
import ProxyConfig.Text.Lossy

/-!
# Operations on files

Each operation takes the whole tree and gives the changed tree, or says why it fails.  Most
operations that fail change nothing.  Two are done step by step, and then what was done before the
failure stays: a file is emptied before it is written, which may break off because no space is left,
and the folders above a folder are made before the folder.
-/

namespace ProxyConfig
namespace Files

/-! ## Space -/

/-- How many bytes fit into the file of a path when it is written; without a number, any content
fits. -/
abbrev Room := String → Option Nat

namespace Room

/-- Everything fits. -/
def boundless : Room :=
  fun _ => none

variable (room : Room) (path : String) (content : Content)

/-- The part of a content that fits into the file of a path. -/
def part : Content :=
  match room path with
  | none => content
  | some bound => content.take bound

/-- The part that does not fit. -/
def rest : Content :=
  match room path with
  | none => []
  | some bound => content.drop bound

theorem part_append_rest : room.part path content ++ room.rest path content = content := by
  unfold part rest
  cases room path <;> simp

variable {room path content}

/-- What fits is written as a whole. -/
theorem part_eq_of_rest (h : room.rest path content = []) : room.part path content = content := by
  have hsplit := room.part_append_rest path content
  rwa [h, List.append_nil] at hsplit

end Room

namespace Folder

/-- The entry that a path leads to. -/
def stat (f : Folder) (path : String) : Except FileError Entry := do
  f.entryAt (← f.locate path)

/-- A folder lies where a path leads. -/
def isFolderAt (f : Folder) (path : String) : Bool :=
  match f.stat path with
  | .ok e => e.isFolder
  | .error _ => false

/-- The content of a file. -/
def read (f : Folder) (path : String) : Except FileError Content := do
  match ← f.stat path with
  | .file content _ => .ok content
  | .folder _ => .error .isFolder

/-- The bytes of a text. -/
def bytesOf (text : String) : Content :=
  Text.utf8Bytes text

/-- The text of bytes. -/
def textOf? (content : Content) : Option String :=
  String.fromUTF8? (ByteArray.mk content.toArray)

/-- The content of a file as text. -/
def readText (f : Folder) (path : String) : Except FileError String := do
  match textOf? (← f.read path) with
  | some text => .ok text
  | none => .error .invalidText

/-- Open a file for writing, which empties it or creates it. -/
def create (f : Folder) (now : Time) (path : String) : Except FileError Folder := do
  let p ← f.locate path
  match p.name with
  | none => .error .isFolder
  | some name =>
    if p.demandsFolder then .error .isFolder
    else if longestName < name.utf8ByteSize then .error .nameTooLong
    else
      match f.find? p.location with
      | some (.folder _) => .error .isFolder
      | _ => .ok (f.put (.file [] now) p.location)

/-- Write more to a file that is open. -/
def append (f : Folder) (now : Time) (path : String) (content : Content) : Folder :=
  match f.locate path with
  | .error _ => f
  | .ok p =>
    match f.find? p.location with
    | some (.file old _) => f.put (.file (old ++ content) now) p.location
    | _ => f

/-- Write a whole file, or what fits of it. -/
def write (f : Folder) (room : Room) (now : Time) (path : String) (content : Content) :
    Folder × Except FileError Unit :=
  match f.create now path with
  | .error e => (f, .error e)
  | .ok opened =>
    let written := opened.append now path (room.part path content)
    if room.rest path content = [] then (written, .ok ()) else (written, .error .noSpace)

/-- Remove a file. -/
def removeFile (f : Folder) (path : String) : Except FileError Folder := do
  let p ← f.locate path
  match ← f.entryAt p with
  | .folder _ => .error .isFolder
  | .file .. => .ok (f.erase p.location)

/-- Give a file another place, where a file may lie already. -/
def renameFile (f : Folder) (source target : String) : Except FileError Folder := do
  let p ← f.locate source
  let q ← f.locate target
  let e ← f.entryAt p
  match q.name with
  | none => .error .busy
  | some name =>
    if q.demandsFolder then .error .notFolder
    else if longestName < name.utf8ByteSize then .error .nameTooLong
    else
      match f.find? q.location with
      | some (.folder _) => .error .isFolder
      | _ => .ok (if p.location = q.location then f else (f.erase p.location).put e q.location)

/-! ## Folders -/

/-- Make a folder. -/
def makeFolderAt (f : Folder) (names : List String) (ending : Path.Ending) :
    Except FileError Folder := do
  let p ← f.placeOf names ending
  match p.name with
  | none => .error .exists
  | some name =>
    if longestName < name.utf8ByteSize then .error .nameTooLong
    else
      match f.find? p.location with
      | some _ => .error .exists
      | none => .ok (f.put (.folder []) p.location)

/-- A folder lies where names lead. -/
def isFolderAtNames (f : Folder) (names : List String) : Bool :=
  match f.placeOf names .nothing with
  | .ok p =>
    match f.entryAt p with
    | .ok e => e.isFolder
    | .error _ => false
  | .error _ => false

/-- Make a folder, or put up with the one that is there. -/
def settleFolder (f : Folder) (names : List String) (ending : Path.Ending) :
    Folder × Except FileError Unit :=
  match f.makeFolderAt names ending with
  | .ok made => (made, .ok ())
  | .error e => (f, if f.isFolderAtNames names then .ok () else .error e)

/-- Make a folder and the folders above it; the number bounds how many there are. -/
def makeFolders (f : Folder) (names : List String) (ending : Path.Ending) :
    Nat → Folder × Except FileError Unit
  | 0 => f.settleFolder names ending
  | above + 1 =>
    match f.makeFolderAt names ending with
    | .error .notFound =>
      match f.makeFolders names.dropLast .nothing above with
      | (g, .ok _) => g.settleFolder names ending
      | (g, .error e) => (g, .error e)
    | _ => f.settleFolder names ending

/-- Make the folder of a path and the folders above it.  Nothing has to be done for the empty
path. -/
def createFolders (f : Folder) (path : String) : Folder × Except FileError Unit :=
  if path = "" then (f, .ok ())
  else if path.toList.any (·.toNat = 0) then (f, .error .invalidPath)
  else if longestPath < path.utf8ByteSize then (f, .error .nameTooLong)
  else f.makeFolders (Path.names path) (Path.ending path) (Path.names path).length

/-- The entries of the folder of a path. -/
def entriesAt (f : Folder) (path : String) : Except FileError Folder := do
  match ← f.stat path with
  | .folder entries => .ok entries
  | .file .. => .error .notFolder

end Folder
end Files
end ProxyConfig
