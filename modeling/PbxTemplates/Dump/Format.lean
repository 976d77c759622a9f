import PbxTemplates.Dump.Form
import PbxTemplates.Files.Path
import PbxTemplates.Json.Reader
import PbxTemplates.Toml.Reader

/-!
# Formats of dumps

A dump is written in TOML or in JSON. Without a given format the extension of the file decides.
-/

namespace PbxTemplates

inductive DumpFormat where
  /-- TOML, which is also taken where nothing says otherwise. -/
  | toml
  | json
deriving DecidableEq

namespace DumpFormat

def name : DumpFormat → String
  | toml => "toml"
  | json => "json"

/-- The format of a name, in upper or lower case letters of ASCII. -/
def ofName? (s : String) : Option DumpFormat :=
  [toml, json].find? fun f => f.name.toList == s.toList.map Char.toLower

def ofPath (p : Path) : DumpFormat :=
  if p.extension?.map (·.map Char.toLower) = some json.name.toList then json else toml

end DumpFormat

def Dump.parse (format : DumpFormat) (text : String) : Except DecodeError Dump :=
  match format with
  | .toml => Toml.decode form text
  | .json => Json.decode form text

end PbxTemplates
