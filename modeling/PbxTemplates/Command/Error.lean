import PbxTemplates.Document.Form
import PbxTemplates.Files.System
import PbxTemplates.Resolution.Error

/-!
# Why a command fails
-/

namespace PbxTemplates

def DecodeError.message : DecodeError → String
  | mismatch => "it does not have the expected structure"
  | invalidPosition e => e.message

inductive SettingsError where
  | notFound (p : Path)
  | unreadable (e : FileError)
  | undecodable (e : DecodeError)
  | alreadyThere (p : Path)
  /-- A check has found a fault. -/
  | invalid
  | directoryFailed (e : FileError)
  | unwritable (e : FileError)
deriving DecidableEq

def SettingsError.message : SettingsError → String
  | notFound p => "Configuration file not found: " ++ p.quoted
  | unreadable e => "Failed to read configuration file: " ++ e.message
  | undecodable e => "Failed to parse configuration file: " ++ e.message
  | alreadyThere p => "Configuration file already exists at " ++ p.quoted
  | invalid => "The configuration is invalid"
  | directoryFailed e => "Failed to create directory: " ++ e.message
  | unwritable e => "Failed to write configuration file: " ++ e.message

inductive CommandError where
  | settings (e : SettingsError)
  | unknownFormat (name : String)
  | unknownDisplay (name : String)
  | unreadableInput (p : Path) (e : FileError)
  | undecodableInput (e : DecodeError)
  | resolution (e : ResolutionError)
  | unknownUser (id : UInt64)
  | unwritableOutput (p : Path) (e : FileError)
deriving DecidableEq

def CommandError.message : CommandError → String
  | settings e => "Configuration error: " ++ e.message
  | unknownFormat name =>
    "Invalid arguments: Invalid format: '" ++ name ++ "'. Use 'toml' or 'json'."
  | unknownDisplay name =>
    "Invalid arguments: Invalid format: '" ++ name ++ "'. Use 'json' or 'pretty'."
  | unreadableInput p e => "Failed to read input file " ++ p.quoted ++ ": " ++ e.message
  | undecodableInput e =>
    "Resolution failed: Failed to parse configuration document: " ++ e.message
  | resolution e => "Resolution failed: " ++ e.message
  | unknownUser id => "User " ++ Decimal.text id.toNat ++ " has no function key templates"
  | unwritableOutput p e =>
    "Failed to write output: Failed to write " ++ p.text ++ ": " ++ e.message

end PbxTemplates
