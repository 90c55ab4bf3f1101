import ProxyConfig.Files.Operations
import ProxyConfig.RuleSet.Tag

/-!
# Rule-sets on disk

A rule-set is kept in a file of its own, named by its label.  The file is used as long as it is not
empty and not too old.
-/

namespace ProxyConfig

open Files

/-- The file of a rule-set in a folder. -/
def RuleSetTag.localPath (tag : RuleSetTag) (dir : String) : String :=
  Path.join dir tag.fileName

namespace Artifact

/-- The age at which a file becomes stale, in seconds. -/
def longestAge : Time := 7 * 24 * 60 * 60

/-- A regular file that is not empty. -/
def isUsable : Entry → Bool
  | .file content _ => !content.isEmpty
  | .folder _ => false

/-- A regular file that is neither empty nor too old.  A file from the future is not old. -/
def isRecent (now : Time) : Entry → Bool
  | .file content modified => !content.isEmpty && now - modified ≤ longestAge
  | .folder _ => false

/-- The file of a path need not be downloaded again. -/
def isFresh (f : Folder) (now : Time) (path : String) : Bool :=
  match f.stat path with
  | .ok e => isRecent now e
  | .error _ => false

/-- What precedes the ending of the name of a rule-set file.  The ending alone is no such name. -/
def stem? (name : String) : Option String :=
  let reversed := name.toList.reverse
  let ending := ".srs".toList.reverse
  if ending.isPrefixOf reversed ∧ ending.length < reversed.length then
    some (String.ofList (reversed.drop ending.length).reverse)
  else
    none

/-- Put a text at its place in an increasing list, unless it is there already. -/
def insertText (text : String) : List String → List String
  | [] => [text]
  | t :: rest =>
    if text = t then t :: rest
    else if text < t then text :: t :: rest
    else t :: insertText text rest

/-- A path leads to a regular file that is not empty. -/
def isUsableAt (f : Folder) (path : String) : Bool :=
  match f.stat path with
  | .ok e => isUsable e
  | .error _ => false

/-- The label of the rule-set that an entry of a folder holds.  The entry is looked at by its path. -/
def labelOf? (f : Folder) (dir name : String) : Option String :=
  if isUsableAt f (Path.join dir name) then stem? name else none

/-- The labels of the rule-sets in the folder of a path, in increasing order; none if there is no
such folder. -/
def available (f : Folder) (dir : String) : List String :=
  match f.entriesAt dir with
  | .ok entries => (entries.filterMap fun e => labelOf? f dir e.1).foldr insertText []
  | .error _ => []

end Artifact
end ProxyConfig
