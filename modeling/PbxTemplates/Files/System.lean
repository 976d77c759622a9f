import PbxTemplates.Files.Path
import PbxTemplates.SortedMap

/-!
# File systems

A file system holds files and directories by location. Commands read it and return a changed one, so
that what they leave behind can be stated. All names on the way of a path must be directories; which
of several faults is reported follows the order of the names.

Main statements: `get?_put_self` and `get?_put_of_ne` say what a change of one place changes.
-/

namespace PbxTemplates

/-- The names that lead to a place from the root. -/
abbrev Location := List String

/-- The place of a name seen from a directory. A point stands for the directory itself, and two
points stand for the one further out. -/
def Location.next (l : Location) (name : String) : Location :=
  if name = "." then l else if name = ".." then l.dropLast else l ++ [name]

inductive FileEntry where
  | file (text : String)
  | directory
deriving DecidableEq

inductive FileError where
  | notFound
  | occupied
  /-- A name on the way is no directory. -/
  | notDirectory
  | isDirectory
  /-- A name or the whole path is longer than is allowed. -/
  | nameTooLong
deriving DecidableEq

def FileError.message : FileError → String
  | notFound => "No such file or directory (os error 2)"
  | occupied => "File exists (os error 17)"
  | notDirectory => "Not a directory (os error 20)"
  | isDirectory => "Is a directory (os error 21)"
  | nameTooLong => "File name too long (os error 36)"

/-- Files and directories, and the directory from which relative paths start. -/
structure FileSystem where
  /-- What the places hold; a place without entry holds nothing. -/
  entries : SortedMap Location FileEntry
  current : Location
deriving DecidableEq

namespace FileSystem

/-- What a place holds. The root is always a directory. -/
def get? (fs : FileSystem) (l : Location) : Option FileEntry :=
  if l = [] then some .directory else fs.entries.get? l

def put (fs : FileSystem) (l : Location) (e : FileEntry) : FileSystem :=
  { fs with entries := fs.entries.insert l e }

@[simp] theorem get?_root (fs : FileSystem) : fs.get? [] = some .directory := if_pos rfl

@[simp] theorem current_put (fs : FileSystem) (l : Location) (e : FileEntry) :
    (fs.put l e).current = fs.current := rfl

theorem get?_put_self (fs : FileSystem) {l : Location} (h : l ≠ []) (e : FileEntry) :
    (fs.put l e).get? l = some e := by
  simp [get?, put, h]

theorem get?_put_of_ne (fs : FileSystem) {j l : Location} (h : j ≠ l) (e : FileEntry) :
    (fs.put l e).get? j = fs.get? j := by
  simp [get?, put, SortedMap.get?_insert_of_ne _ h]

/-! ### Following a path -/

/-- How many bytes a name may have. -/
def nameLimit : Nat := 255

/-- How many bytes a path may have. -/
def pathLimit : Nat := 4095

def step (l : Location) (name : String) : Except FileError Location :=
  if name.utf8ByteSize > nameLimit then .error .nameTooLong else .ok (l.next name)

def enter (fs : FileSystem) (l : Location) (name : String) : Except FileError Location :=
  match step l name with
  | .error e => .error e
  | .ok l =>
    match fs.get? l with
    | none => .error .notFound
    | some (.file _) => .error .notDirectory
    | some .directory => .ok l

/-- Follows names to the directory in which the last one is to be found. -/
def approach (fs : FileSystem) (l : Location) : List String → Except FileError Location
  | [] | [_] => .ok l
  | name :: names =>
    match fs.enter l name with
    | .error e => .error e
    | .ok l => fs.approach l names

/-- The directory in which the last name of a path is to be found. The empty path leads nowhere. -/
def directoryOf (fs : FileSystem) (p : Path) : Except FileError Location :=
  if p.text = "" then .error .notFound
  else if p.text.utf8ByteSize > pathLimit then .error .nameTooLong
  else fs.approach (if p.isAbsolute then [] else fs.current) p.steps

def arrive (l : Location) (p : Path) : Except FileError Location :=
  match p.steps.getLast? with
  | none => .ok l
  | some name => step l name

def locate (fs : FileSystem) (p : Path) : Except FileError Location :=
  match fs.directoryOf p with
  | .error e => .error e
  | .ok l => arrive l p

/-- What a path leads to. After a slash at the end there must be a directory. -/
def lookUp (fs : FileSystem) (p : Path) : Except FileError FileEntry :=
  match fs.locate p with
  | .error e => .error e
  | .ok l =>
    match fs.get? l with
    | none => .error .notFound
    | some .directory => .ok .directory
    | some (.file text) => if p.endsWithSlash then .error .notDirectory else .ok (.file text)

def hasPath (fs : FileSystem) (p : Path) : Bool :=
  match fs.lookUp p with
  | .ok _ => true
  | .error _ => false

def isDirectory (fs : FileSystem) (p : Path) : Bool :=
  match fs.lookUp p with
  | .ok .directory => true
  | _ => false

/-! ### Reading and writing -/

def read (fs : FileSystem) (p : Path) : Except FileError String :=
  match fs.lookUp p with
  | .error e => .error e
  | .ok .directory => .error .isDirectory
  | .ok (.file text) => .ok text

/-- The place at which a file can be written: one that holds a file or nothing. A slash at the end
asks for a directory, whatever there is. -/
def writable (fs : FileSystem) (p : Path) : Except FileError Location :=
  match fs.directoryOf p with
  | .error e => .error e
  | .ok l =>
    if p.endsWithSlash then .error .isDirectory
    else match arrive l p with
      | .error e => .error e
      | .ok l => if fs.get? l = some .directory then .error .isDirectory else .ok l

def write (fs : FileSystem) (p : Path) (text : String) : Except FileError FileSystem :=
  (fs.writable p).map fun l => fs.put l (.file text)

/-! ### Making directories -/

def makeDirectory (fs : FileSystem) (p : Path) : Except FileError FileSystem :=
  match fs.locate p with
  | .error e => .error e
  | .ok l => if (fs.get? l).isSome then .error .occupied else .ok (fs.put l .directory)

/-- The fault of making a directory, unless there is one already. -/
def faultUnlessThere (fs : FileSystem) (p : Path) (e : FileError) : Option FileError :=
  if fs.isDirectory p then none else some e

/-- Makes a directory after those further out, as far as they are missing. The paths stand innermost
first. What was made before a fault stays. -/
def makeDirectories (fs : FileSystem) : List Path → FileSystem × Option FileError
  | [] => (fs, none)
  | p :: outer =>
    match fs.makeDirectory p with
    | .ok fs => (fs, none)
    | .error .notFound =>
      match fs.makeDirectories outer with
      | (fs, some e) => (fs, some e)
      | (fs, none) =>
        match fs.makeDirectory p with
        | .ok fs => (fs, none)
        | .error e => (fs, fs.faultUnlessThere p e)
    | .error e => (fs, fs.faultUnlessThere p e)

def makeParents (fs : FileSystem) (p : Path) : FileSystem × Option FileError :=
  fs.makeDirectories p.parents

end FileSystem

end PbxTemplates
