import PbxTemplates.Text.Decimal

/-!
# Command lines

The words of a command line name a command and then its options, each with a value and each at most
once. A value stands behind its option in the same word or is the next word; a value that is a word
of its own does not begin with a hyphen, unless it is nothing but a hyphen.
-/

namespace PbxTemplates

structure ResolveRequest where
  input : String
  format : Option String
  config : Option String
  output : Option String
deriving DecidableEq

structure KeysRequest where
  input : String
  format : Option String
  user : UInt64
  display : String
deriving DecidableEq

inductive Command where
  | version
  | initSettings (path : Option String)
  | checkSettings (path : Option String)
  | showSettings (path : Option String)
  | resolve (request : ResolveRequest)
  | keys (request : KeysRequest)
deriving DecidableEq

namespace Command

/-! ### Options -/

/-- An option: its long name, which begins with its letter. -/
structure Flag where
  name : String
deriving DecidableEq

/-- What a word says about an option: which one it is, and a value in the same word. -/
abbrev FlagWord := Flag × Option String

/-- The option of a word that begins with two hyphens. -/
def longFlag? (flags : List Flag) (cs : List Char) : Option FlagWord :=
  let (name, rest) := cs.span (· ≠ '=')
  (flags.find? fun f => f.name.toList == name).map fun f =>
    (f, match rest with
      | [] => none
      | _ :: value => some (String.ofList value))

/-- The option of a word that begins with one hyphen. An equals sign before the value is no part of
it. -/
def shortFlag? (flags : List Flag) (letter : Char) (cs : List Char) : Option FlagWord :=
  (flags.find? fun f => f.name.toList.head? == some letter).map fun f =>
    (f, match cs with
      | [] => none
      | '=' :: value => some (String.ofList value)
      | value => some (String.ofList value))

def flagWord? (flags : List Flag) (word : String) : Option FlagWord :=
  match word.toList with
  | '-' :: '-' :: rest => longFlag? flags rest
  | '-' :: letter :: rest => shortFlag? flags letter rest
  | _ => none

def isValue (word : String) : Bool :=
  match word.toList with
  | '-' :: _ :: _ => false
  | _ => true

/-- The options of a command line with their values. Two hyphens may end them. -/
def readFlags (flags : List Flag) : List String → Option (List (Flag × String))
  | [] => some []
  | ["--"] => some []
  | word :: rest =>
    match flagWord? flags word, rest with
    | some (f, some value), rest => (readFlags flags rest).map ((f, value) :: ·)
    | some (f, none), value :: rest =>
      if isValue value then (readFlags flags rest).map ((f, value) :: ·) else none
    | _, _ => none

/-- The values of options, none of which comes twice. -/
def options? (flags : List Flag) (words : List String) : Option (Flag → Option String) :=
  match readFlags flags words with
  | none => none
  | some given =>
    if (given.map (·.1)).Nodup then some fun f => given.lookup f else none

/-! ### Commands -/

def input : Flag := ⟨"input"⟩

def format : Flag := ⟨"format"⟩

def config : Flag := ⟨"config"⟩

def output : Flag := ⟨"output"⟩

def user : Flag := ⟨"user"⟩

def display : Flag := ⟨"display"⟩

def path : Flag := ⟨"path"⟩

/-- The number of a user: digits, which may have a plus sign before them, of a number below
`2 ^ 64`. -/
def userNumber? (s : String) : Option UInt64 :=
  let digits := match s.toList with
    | '+' :: rest => rest
    | cs => cs
  match Decimal.read? digits with
  | some n => if n < UInt64.size then some (UInt64.ofNat n) else none
  | none => none

def resolveRequest? (get : Flag → Option String) : Option ResolveRequest :=
  (get input).map fun i => ⟨i, get format, get config, get output⟩

/-- The request for a display of keys. The display is JSON unless another one is given. -/
def keysRequest? (get : Flag → Option String) : Option KeysRequest :=
  match get input, (get user).bind userNumber? with
  | some i, some u => some ⟨i, get format, u, (get display).getD "json"⟩
  | _, _ => none

def ofWords? : List String → Option Command
  | "version" :: rest => (options? [] rest).map fun _ => version
  | "config" :: "init" :: rest => (options? [path] rest).map fun get => initSettings (get path)
  | "config" :: "validate" :: rest => (options? [path] rest).map fun get => checkSettings (get path)
  | "config" :: "show" :: rest => (options? [path] rest).map fun get => showSettings (get path)
  | "resolve" :: rest =>
    ((options? [input, format, config, output] rest).bind resolveRequest?).map resolve
  | "func-keys" :: rest =>
    ((options? [input, format, user, display] rest).bind keysRequest?).map keys
  | _ => none

end Command

end PbxTemplates
