import PbxTemplates.Command.Arguments
import PbxTemplates.Command.Error
import PbxTemplates.Dump.Format
import PbxTemplates.FunctionKey.Listing
import PbxTemplates.Resolution.Report
import PbxTemplates.Settings.Form

/-!
# Running commands

A command turns a file system into a result: what is printed, and the file system it leaves behind.
A command that fails prints its error only. A command that writes a file does so in its last step,
so that a failure leaves no part of an output.
-/

namespace PbxTemplates

/-- What a command finds around it besides the file system. -/
structure Environment where
  /-- The current directory, as it is shown. -/
  directory : String
  color : Bool

/-- What a command leaves behind. -/
structure CommandResult where
  /-- What the program is asked to report to its caller: zero for success. -/
  status : Nat
  /-- What is printed as the result. -/
  printed : String
  /-- What is printed for people. -/
  remarks : String
  files : FileSystem

namespace CommandResult

def failed (fs : FileSystem) (e : CommandError) : CommandResult where
  status := 1
  printed := ""
  remarks := "Error: " ++ e.message ++ "\n"
  files := fs

/-- The result of a command that prints a line and changes nothing. -/
def line (fs : FileSystem) (text : String) : CommandResult where
  status := 0
  printed := text ++ "\n"
  remarks := ""
  files := fs

/-- The result of a command that prints a line or fails, and changes nothing. -/
def ofResult (fs : FileSystem) : Except CommandError String → CommandResult
  | .error e => failed fs e
  | .ok text => line fs text

end CommandResult

/-! ### Settings -/

namespace Settings

/-- The name of the settings file in the current directory. -/
def defaultName : String := "pbx-confgen.toml"

/-- The settings file: the given one, or the one in the current directory. -/
def path (env : Environment) (given : Option String) : Path :=
  given.elim (.join env.directory defaultName) (⟨·⟩)

def load (fs : FileSystem) (p : Path) : Except SettingsError Settings :=
  if !fs.hasPath p then .error (.notFound p)
  else match fs.read p with
    | .error e => .error (.unreadable e)
    | .ok text => (read text).mapError .undecodable

/-- The settings under which a command runs: a given file must be there, but the file in the current
directory need not. -/
def inForce (env : Environment) (fs : FileSystem) (given : Option String) :
    Except SettingsError Settings :=
  if given.isNone ∧ !fs.hasPath (path env none) then .ok {}
  else load fs (path env given)

/-- Writes settings to a file, making its directories if need be. Directories that were made stay
when the file cannot be written. -/
def save (s : Settings) (fs : FileSystem) (p : Path) : FileSystem × Option SettingsError :=
  match fs.makeParents p with
  | (fs, some e) => (fs, some (.directoryFailed e))
  | (fs, none) =>
    match fs.write p s.text with
    | .error e => (fs, some (.unwritable e))
    | .ok fs => (fs, none)

end Settings

namespace Command

/-- Writes a settings file with the default settings, unless there is one. -/
def runInit (env : Environment) (fs : FileSystem) (given : Option String) : CommandResult :=
  let p := Settings.path env given
  if fs.hasPath p then .failed fs (.settings (.alreadyThere p))
  else match Settings.save {} fs p with
    | (fs, some e) => .failed fs (.settings e)
    | (fs, none) => .line fs ("Configuration initialized at " ++ p.quoted)

def runCheck (env : Environment) (fs : FileSystem) (given : Option String) : CommandResult :=
  match Settings.load fs (Settings.path env given) with
  | .error _ => .failed fs (.settings .invalid)
  | .ok _ => .line fs "Configuration is valid"

def runShow (env : Environment) (fs : FileSystem) (given : Option String) : CommandResult :=
  .ofResult fs (((Settings.inForce env fs given).mapError .settings).map (·.text))

/-! ### Dumps -/

/-- Reads a dump. A wrong name of a format is reported before the file is read. -/
def loadDump (fs : FileSystem) (p : Path) (format : Option String) : Except CommandError Dump :=
  match format.elim (some (DumpFormat.ofPath p)) DumpFormat.ofName? with
  | none => .error (.unknownFormat (format.getD ""))
  | some f =>
    match fs.read p with
    | .error e => .error (.unreadableInput p e)
    | .ok text => (Dump.parse f text).mapError .undecodableInput

/-- The resolution that a request asks for, and the settings of its output. -/
def resolution (env : Environment) (fs : FileSystem) (r : ResolveRequest) :
    Except CommandError (OutputSettings × Resolution) :=
  match Settings.inForce env fs r.config with
  | .error e => .error (.settings e)
  | .ok s =>
    match loadDump fs ⟨r.input⟩ r.format with
    | .error e => .error e
    | .ok dump =>
      ((dump.resolve s.resolver.canonicalizer).mapError .resolution).map fun r => (s.output, r)

def runResolve (env : Environment) (fs : FileSystem) (r : ResolveRequest) : CommandResult :=
  match resolution env fs r with
  | .error e => .failed fs e
  | .ok (settings, resolved) =>
    let text := resolved.render settings ++ "\n"
    let summary := resolved.stats.summary env.color ++ "\n"
    match r.output with
    | none => ⟨0, text, summary, fs⟩
    | some file =>
      match fs.write ⟨file⟩ text with
      | .error e => .failed fs (.unwritableOutput ⟨file⟩ e)
      | .ok fs => ⟨0, "", summary, fs⟩

/-- The function keys of a user of a dump, who must be listed there. -/
def userKeys (dump : Dump) (user : UInt64) : Except CommandError KeyTemplate :=
  match dump.userKeys user with
  | .error e => .error (.resolution e)
  | .ok none => .error (.unknownUser user)
  | .ok (some t) => .ok t

def showKeys (color : Bool) (display : String) (t : KeyTemplate) : Except CommandError String :=
  match KeyDisplay.ofName? display with
  | none => .error (.unknownDisplay display)
  | some way => .ok (t.display color way)

def keysText (env : Environment) (fs : FileSystem) (r : KeysRequest) : Except CommandError String :=
  match loadDump fs ⟨r.input⟩ r.format with
  | .error e => .error e
  | .ok dump =>
    match userKeys dump r.user with
    | .error e => .error e
    | .ok t => showKeys env.color r.display t

def versionText : String := "pbx-confgen version 0.1.0"

def run (env : Environment) (fs : FileSystem) : Command → CommandResult
  | version => .line fs versionText
  | initSettings p => runInit env fs p
  | checkSettings p => runCheck env fs p
  | showSettings p => runShow env fs p
  | resolve r => runResolve env fs r
  | keys r => .ofResult fs (keysText env fs r)

end Command

end PbxTemplates
