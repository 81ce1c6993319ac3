import SwitchAcl.Codec.Inventory
import SwitchAcl.SettingsText

/-!
# Files and loading

Files and folders held in memory, and why a file cannot be read or written.  A path is walked name
by name: from the outermost folder where it starts with a slash, and otherwise from the folder that
is being worked in.  Each name but the last has to lead to a folder, a single point stays where it
is and two points lead back.  The empty path leads nowhere.

Settings and inventories are loaded from files.  The file of the settings may be missing, in which
case every setting has its default; any other fault is an error, and so is a content that denotes
nothing.

## Main definitions

* `FileFault` — why a file cannot be read or written.
* `FileTree` — files and folders by their location.
* `FileTree.read`, `FileTree.readText`, `FileTree.write` — the content of a file.
* `FileError` — why a file is of no use.
* `Settings.load`, `Settings.save` — settings in a file.
* `Inventory.load` — an inventory in a file.
-/

namespace SwitchAcl

/-! ### Files and folders -/

/-- Why a file cannot be read or written. -/
inductive FileFault
  /-- There is nothing under a name of the path. -/
  | missing
  /-- The path goes on after a file. -/
  | notFolder
  /-- The path leads to a folder. -/
  | isFolder
  /-- The path holds the character that ends paths. -/
  | badPath
  /-- A name of the path, or the path, is too long. -/
  | tooLong
  /-- The content encodes no text. -/
  | notText
  /-- Any other reason, in the words of the system. -/
  | other (reason : String)
  deriving DecidableEq, Repr

/-- The words a fault is reported with. -/
def FileFault.text : FileFault → String
  | .missing => "No such file or directory (os error 2)"
  | .notFolder => "Not a directory (os error 20)"
  | .isFolder => "Is a directory (os error 21)"
  | .badPath => "file name contained an unexpected NUL byte"
  | .tooLong => "File name too long (os error 36)"
  | .notText => "stream did not contain valid UTF-8"
  | .other reason => reason

/-- The names that lead to a file or folder, the last one first. -/
abbrev Location := List String

/-- What there is at a location. -/
inductive FileEntry
  | file (content : ByteArray)
  | folder

/-- Files and folders by their location. -/
structure FileTree where
  entries : List (Location × FileEntry) := []
  /-- The folder that is being worked in. -/
  here : Location := []

/-- The text some bytes encode. -/
def decodeText (content : ByteArray) : Except FileFault String :=
  match String.fromUTF8? content with
  | some s => .ok s
  | none => .error .notText

namespace FileTree

/-- What there is at a location.  The outermost folder always exists. -/
def entry? (t : FileTree) : Location → Option FileEntry
  | [] => some .folder
  | l => (t.entries.find? fun e => e.1 == l).map Prod.snd

/-- The greatest number of bytes of a name. -/
def nameLimit : Nat := 255

/-- The greatest number of bytes of a path. -/
def pathLimit : Nat := 4095

/-- The location some names lead to, which need not hold anything, from a location on. -/
def walk (t : FileTree) (here : Location) : List String → Except FileFault Location
  | [] => .ok here
  | name :: names =>
    match t.entry? here with
    | none => .error .missing
    | some (.file _) => .error .notFolder
    | some .folder =>
      if name = "" ∨ name = "." then t.walk here names
      else if name = ".." then t.walk here.tail names
      else if nameLimit < name.utf8ByteSize then .error .tooLong
      else t.walk (name :: here) names

/-- The names of a path.  A slash at the end leaves an empty last name. -/
def names (path : String) : List String := path.splitOn "/"

/-- Where the walk along a path starts. -/
def origin (t : FileTree) (path : String) : Except FileFault Location :=
  if path.toList.contains '\x00' then .error .badPath
  else if path = "" then .error .missing
  else if pathLimit < path.utf8ByteSize then .error .tooLong
  else if path.startsWith "/" then .ok []
  else .ok t.here

/-- The content of the file at a path. -/
def read (t : FileTree) (path : String) : Except FileFault ByteArray := do
  let location ← t.walk (← t.origin path) (names path)
  match t.entry? location with
  | none => .error .missing
  | some .folder => .error .isFolder
  | some (.file content) => .ok content

/-- The text in the file at a path. -/
def readText (t : FileTree) (path : String) : Except FileFault String := do
  decodeText (← t.read path)

/-- The tree with an entry at a location, in the place of what was there. -/
def put (t : FileTree) (location : Location) (e : FileEntry) : FileTree :=
  { t with entries := (location, e) :: t.entries.filter fun x => x.1 != location }

/-- The tree with a content in the file at a path, which is made where there is none.  What a path
with a slash at its end names can only be a folder. -/
def write (t : FileTree) (path : String) (content : ByteArray) : Except FileFault FileTree := do
  let location ← t.walk (← t.origin path) ((names path).reverse.dropWhile (· == "")).reverse
  match t.entry? location with
  | some .folder => .error .isFolder
  | _ => if path.endsWith "/" then .error .isFolder else .ok (t.put location (.file content))

end FileTree

/-! ### Settings and inventories -/

/-- Why a file is of no use. -/
inductive FileError
  /-- The file cannot be read or written. -/
  | unusable (path : String) (fault : FileFault)
  /-- The content of the file denotes nothing. -/
  | malformed (path : String)
  deriving DecidableEq, Repr

namespace FileError

/-- The words an error is reported with. -/
def message : FileError → String
  | .unusable path fault => "I/O error on " ++ path ++ ": " ++ fault.text
  | .malformed path => "Failed to parse config file " ++ path

/-- The words of an error and of what caused it. -/
def chain (e : FileError) : List String :=
  match e with
  | .unusable _ fault => [e.message, fault.text]
  | .malformed _ => [e.message]

end FileError

/-- The settings that the file at a path holds, given what reading it answered, and what is said
about them. -/
def Settings.load (path : String) : Except FileFault String →
    Except FileError Settings × List LogLine
  | .ok content =>
    match Settings.parse content with
    | some s => (.ok s, s.warnings)
    | none => (.error (.malformed path), [])
  | .error .missing =>
    (.ok {}, [⟨.info, .settings, "Config file " ++ path ++ " not found, using defaults"⟩])
  | .error fault => (.error (.unusable path fault), [])

/-- The files after settings are written to a path. -/
def Settings.save (s : Settings) (path : String) (t : FileTree) : Except FileError FileTree :=
  (t.write path s.text.toUTF8).mapError (.unusable path)

/-- The inventory that the file at a path holds, given what reading it answered. -/
def Inventory.load (path : String) : Except FileFault String → Except FileError Inventory
  | .ok content =>
    match Inventory.parse content with
    | some inv => .ok inv
    | none => .error (.malformed path)
  | .error fault => .error (.unusable path fault)

end SwitchAcl
