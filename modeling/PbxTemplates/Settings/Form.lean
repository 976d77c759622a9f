import PbxTemplates.Document.Record
import PbxTemplates.Settings.Basic
import PbxTemplates.Toml.Reader

/-!
# Settings files

A settings file is read as any document is. It is written with all settings, each group of them
under a header.
-/

namespace PbxTemplates

def ResolverSettings.form : Form ResolverSettings :=
  Record.form <|
    (Record.defaulted "extra_repeatable_keys" (.list .text) []).convert
      (fun keys => ⟨keys⟩) (·.extraRepeatableKeys)

def OutputSettings.form : Form OutputSettings :=
  Record.form <|
    ((Record.defaulted "pretty" .bool true).and (.defaulted "include_stats" .bool false)).convert
      (fun o => ⟨o.1, o.2⟩) fun o => (o.pretty, o.includeStats)

namespace Settings

/-- All settings. Every group of them may be left out. -/
def form : Form Settings :=
  Record.form <|
    ((Record.defaulted "resolver" ResolverSettings.form {}).and
      (.defaulted "output" OutputSettings.form {})).convert
      (fun s => ⟨s.1, s.2⟩) fun s => (s.resolver, s.output)

def read (text : String) : Except DecodeError Settings := Toml.decode form text

/-! ### Writing -/

/-- An array of texts: on one line if there is at most one, otherwise each on a line of its own. -/
def printTexts : List String → List Char
  | [] => "[]".toList
  | [s] => '[' :: Toml.quote s.toList ++ [']']
  | l => "[\n".toList ++ l.flatMap (fun s => "    ".toList ++ Toml.quote s.toList ++ ",\n".toList)
    ++ [']']

def printBool (b : Bool) : List Char := if b then "true".toList else "false".toList

def print (s : Settings) : List Char :=
  "[resolver]\nextra_repeatable_keys = ".toList ++ printTexts s.resolver.extraRepeatableKeys
    ++ "\n\n[output]\npretty = ".toList ++ printBool s.output.pretty
    ++ "\ninclude_stats = ".toList ++ printBool s.output.includeStats ++ ['\n']

def text (s : Settings) : String := String.ofList s.print

end Settings

end PbxTemplates
