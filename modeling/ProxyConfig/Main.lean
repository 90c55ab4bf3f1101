import ProxyConfig.CommandLine.Run

/-!
# The program

The outer layer of the command line: it looks up the files that the words concern, runs, and
writes down what has changed.  Two things of the surroundings are not at hand here.  There is no
network, so nothing is downloaded; and the age of a file is unknown, so every file that exists
counts as new.
-/

namespace ProxyConfig
namespace Program

open Files

/-- What lies at a path. -/
def entryOf (path : String) : IO (Option Entry) := do
  try
    return some (.file (← IO.FS.readBinFile path).toList 0)
  catch
    | .inappropriateType _ 21 _ => return some (.folder [])
    | _ => return none

/-- The path of the folder above. -/
def above (path : String) : String :=
  let names := (Path.parts path).dropLast
  "/".intercalate (if names = [""] then ["", ""] else if names = [] then ["."] else names)

/-- Put down what lies at a path, or at least the folder above if that exists. -/
def lookUp (files : Folder) (path : String) : IO Folder := do
  let within (entry : Option Entry) : IO Folder := do
    let made := (files.createFolders (above path)).1
    match entry with
    | some (.file content _) => return (made.write .boundless 0 path content).1
    | some (.folder _) => return (made.createFolders path).1
    | none => return made
  match ← entryOf path with
  | some entry => within (some entry)
  | none =>
    match ← entryOf (above path) with
    | some (.folder _) => within none
    | _ => return files

/-- The files and folders that a command concerns, the configuration aside. -/
def pathsOf (config : Config) : Option Command → List String
  | none => []
  | some (.compile command) =>
    command.output.toList ++ if command.localRuleSets then inside command.ruleSetDir else []
  | some (.sync command) => inside command.ruleSetDir
where
  inside (dir : String) : List String :=
    dir :: (Routing.neededRuleSets config.model.rules config.model.ruleGroups).map
      fun tag => tag.localPath dir

/-- Write down what has changed at a path. -/
def writeBack (before after : Folder) (path : String) : IO Unit := do
  match after.stat path with
  | .ok (.file content _) =>
    if (before.read path).toOption ≠ some content then
      IO.FS.writeBinFile path (ByteArray.mk content.toArray)
  | .ok (.folder _) => unless before.isFolderAt path do IO.FS.createDirAll path
  | .error _ => return

/-- Run with the words of a command line, and give the exit code. -/
def run (words : List String) : IO UInt32 := do
  let line := (CommandLine.read words).toOption.getD {}
  let known ← lookUp [] line.config
  let paths :=
    match Config.load known line.config with
    | .ok config => pathsOf config line.command
    | .error _ => []
  let files ← lookUp (← paths.foldlM lookUp []) line.config
  let outcome := Surroundings.run { files := files, now := 0 } words
  paths.forM (writeBack files outcome.files)
  if let some complaint := outcome.complaint then IO.eprintln complaint
  IO.print outcome.printed
  return outcome.exitCode.toUInt32

end Program
end ProxyConfig

/-- Compile configurations of a proxy, and keep rule-sets up to date. -/
def main (words : List String) : IO UInt32 := do
  try
    ProxyConfig.Program.run words
  catch e =>
    IO.eprintln (toString e)
    return 1
