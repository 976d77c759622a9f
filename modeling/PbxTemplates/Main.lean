import PbxTemplates.Command.Run

/-!
# The program

The program looks up what the paths of its command line lead to, runs the command on what it has
found, and carries out the changes. All decisions are made by `Command.run`.
-/

namespace PbxTemplates

namespace Command

/-- The paths that a command may read or write. -/
def paths (env : Environment) : Command → List Path
  | version => []
  | initSettings p | checkSettings p | showSettings p => [Settings.path env p]
  | resolve r =>
    [Settings.path env r.config, ⟨r.input⟩] ++ r.output.toList.map fun file => ⟨file⟩
  | keys r => [⟨r.input⟩]

def usage : String :=
  "usage: pbx-confgen version\n"
    ++ "       pbx-confgen config (init|validate|show) [-p PATH]\n"
    ++ "       pbx-confgen resolve -i INPUT [-f FORMAT] [-c CONFIG] [-o OUTPUT]\n"
    ++ "       pbx-confgen func-keys -i INPUT [-f FORMAT] -u USER [-d DISPLAY]\n"

end Command

def Location.text (l : Location) : String := "/" ++ "/".intercalate l

/-- The locations on the way of a path, which starts from the given directory unless it is
absolute. -/
def Path.locations (p : Path) (current : Location) : List Location :=
  (p.names.foldl (fun (way, l) name =>
    let l := Location.next l name
    (way ++ [l], l)) ([], if p.isAbsolute then [] else current)).1

/-- What a location of the computer holds. -/
def Location.load (l : Location) : IO (Option FileEntry) := do
  let there ← try discard (IO.FS.realPath l.text); pure true catch _ => pure false
  if !there then return none
  let bytes ← try some <$> IO.FS.readBinFile l.text catch _ => pure none
  match bytes.map String.fromUTF8? with
  | none => return some .directory
  | some (some text) => return some (.file text)
  | some none => throw (IO.userError (l.text ++ " is not a text file"))

/-- The part of the computer's files that the given locations hold. -/
def FileSystem.load (current : Location) (locations : List Location) : IO FileSystem :=
  locations.foldlM (fun fs l => do
    match ← l.load with
    | some e => return fs.put l e
    | none => return fs) ⟨∅, current⟩

/-- Carries out the changes from one state of the files to another. -/
def FileSystem.store (before after : FileSystem) : IO Unit :=
  for (l, e) in after.entries.toList do
    if before.get? l ≠ some e then
      match e with
      | .directory => IO.FS.createDirAll l.text
      | .file text => IO.FS.writeFile l.text text

/-- Whether a variable of the environment is set to something else than zero. -/
def isSet (name : String) : IO Bool := return (← IO.getEnv name).any (· ≠ "0")

/-- Whether styles are shown: on request, or on a terminal unless they are not wanted. -/
def showsStyles : IO Bool := do
  if ← isSet "CLICOLOR_FORCE" then return true
  if (← IO.getEnv "NO_COLOR").isSome || (← IO.getEnv "CLICOLOR") == some "0" then return false
  (← IO.getStdout).isTty

def Command.perform (c : Command) : IO UInt32 := do
  let here := toString (← IO.currentDir)
  let current : Location := (⟨here⟩ : Path).names
  let env : Environment := ⟨here, ← showsStyles⟩
  let outward := (List.range current.length).map fun n => current.take (n + 1)
  let before ← FileSystem.load current
    (outward ++ (c.paths env).flatMap fun p => p.locations current)
  let result := c.run env before
  before.store result.files
  IO.print result.printed
  IO.eprint result.remarks
  return result.status.toUInt32

end PbxTemplates

/-- The entry point: a command line that is no command has status 2. -/
def main (words : List String) : IO UInt32 :=
  match PbxTemplates.Command.ofWords? words with
  | none => do
    IO.eprint PbxTemplates.Command.usage
    return 2
  | some c => c.perform
