import SourceOutline.Fault
import SourceOutline.Files.Path
import SourceOutline.Text.Quoted
import SourceOutline.Text.Utf8

/-!
# Files and directories

The files a program sees are a value: the root directory with all that is in it,
and the names that lead from there to the working directory, at which relative
paths begin.  Looking up a path goes name by name, and the first name that cannot
be followed decides why the path leads nowhere.

Something that is there may still be withheld: a path may refuse to be looked at,
to be read or to be listed.  And a text that holds a null character, or one that
the encoding of file names lacks, is the path of nothing.
-/

namespace SourceOutline

inductive Entry where
  | file (content : Bytes)
  | directory (entries : List (String × Entry))

/-- Why a path cannot be used. -/
inductive AccessFault where
  | missing
  | notDirectory
  | isDirectory
  | nameTooLong
  /-- Another refusal of the system, with its number and reason. -/
  | refused (number : Nat) (reason : String)
  deriving DecidableEq, Repr

namespace AccessFault

def number : AccessFault → Nat
  | missing => 2
  | notDirectory => 20
  | isDirectory => 21
  | nameTooLong => 36
  | refused number _ => number

def reason : AccessFault → String
  | missing => "No such file or directory"
  | notDirectory => "Not a directory"
  | isDirectory => "Is a directory"
  | nameTooLong => "File name too long"
  | refused _ reason => reason

def text (fault : AccessFault) (path : String) : String :=
  "[Errno " ++ toString fault.number ++ "] " ++ fault.reason ++ ": " ++ quote path

/-- Whether a fault only means that nothing is there, as a loop of links does. -/
def isAbsence (fault : AccessFault) : Bool :=
  [2, 9, 20, 40].contains fault.number

end AccessFault

/-- What a file system withholds of entries that are there, and the size that a
directory shows. -/
structure Access where
  directorySize : Path → Nat := fun _ => 4096
  unseen : Path → Option AccessFault := fun _ => none
  unread : Path → Option AccessFault := fun _ => none
  unlisted : Path → Option AccessFault := fun _ => none

structure FileStore where
  /-- The entries of the root directory. -/
  entries : List (String × Entry) := []
  workingDirectory : List String := []
  /-- The characters that the encoding of file names has besides those of ASCII. -/
  encodes : Char → Bool := fun _ => true
  access : Access := {}

def hasNull (text : String) : Bool :=
  text.toList.contains '\x00'

namespace FileStore

def canWrite (store : FileStore) (text : String) : Bool :=
  text.toList.all fun c => c.toNat < 128 || store.encodes c

/-- Why no path can have a text. -/
def pathFault? (store : FileStore) (text : String) : Option PathFault :=
  if !store.canWrite text then some .unencodable
  else if hasNull text then some .nullCharacter
  else none

def longestName : Nat := 255

def longestPath : Nat := 4095

/-- Follows names from an entry; `above` are the directories on the way, the
nearest first.  The root directory is above itself. -/
def follow (above : List Entry) (here : Entry) : List String → Except AccessFault Entry
  | [] => .ok here
  | name :: rest =>
      match here with
      | .file _ => .error .notDirectory
      | .directory entries =>
          if name = ".." then
            match above with
            | [] => follow [] here rest
            | parent :: above' => follow above' parent rest
          else if longestName < name.utf8ByteSize then .error .nameTooLong
          else
            match entries.lookup name with
            | none => .error .missing
            | some entry => follow (here :: above) entry rest

def absolute (store : FileStore) (path : Path) : List String :=
  if path.isAbsolute then path.names else store.workingDirectory ++ path.names

/-- The entry to which a path leads. -/
def entry (store : FileStore) (path : Path) : Except AccessFault Entry :=
  if longestPath < path.text.utf8ByteSize then .error .nameTooLong
  else follow [] (.directory store.entries) (store.absolute path)

def look (store : FileStore) (path : Path) : Except AccessFault Entry :=
  match store.access.unseen path with
  | some fault => .error fault
  | none => store.entry path

/-- The entry that is seen at a path, if there is one. -/
def seen? (store : FileStore) (path : Path) : Except AccessFault (Option Entry) :=
  if (store.pathFault? path.text).isSome then .ok none
  else
    match store.look path with
    | .ok entry => .ok (some entry)
    | .error fault => if fault.isAbsence then .ok none else .error fault

def size (store : FileStore) (path : Path) : Except AccessFault Nat :=
  match store.look path with
  | .error fault => .error fault
  | .ok (.file content) => .ok content.length
  | .ok (.directory _) => .ok (store.access.directorySize path)

def content (store : FileStore) (path : Path) : Except AccessFault Bytes :=
  match store.entry path with
  | .ok (.file content) => .ok content
  | .ok (.directory _) => .error .isDirectory
  | .error fault => .error fault

def read (store : FileStore) (path : Path) : Except AccessFault Bytes :=
  match store.access.unread path with
  | some fault => .error fault
  | none => store.content path

def isDirectory (store : FileStore) (path : Path) : Bool :=
  match store.entry path with
  | .ok (.directory _) => true
  | _ => false

def putEntry (entries : List (String × Entry)) (name : String) (entry : Entry) :
    List (String × Entry) :=
  match entries with
  | [] => [(name, entry)]
  | first :: rest =>
      if first.1 = name then (name, entry) :: rest else first :: putEntry rest name entry

/-- The entries below the one with a name, none when it is no directory. -/
def below (entries : List (String × Entry)) (name : String) : List (String × Entry) :=
  match entries.lookup name with
  | some (.directory inner) => inner
  | _ => []

/-- Puts an entry at the end of a list of names, making directories on the way. -/
def place (entry : Entry) (entries : List (String × Entry)) : List String → List (String × Entry)
  | [] => entries
  | [name] => putEntry entries name entry
  | name :: rest => putEntry entries name (.directory (place entry (below entries name) rest))

def put (store : FileStore) (names : List String) (entry : Entry) : FileStore :=
  { store with entries := place entry store.entries names }

def write (store : FileStore) (path : Path) (content : Bytes) : FileStore :=
  store.put (store.absolute path) (.file content)

def makeDirectory (store : FileStore) (path : Path) : FileStore :=
  if store.isDirectory path then store
  else store.put (store.absolute path) (.directory [])

/-- Names without double dots, each of which takes away the name before it. -/
def straight (names : List String) : List String :=
  (names.foldl (fun taken name => if name = ".." then taken.drop 1 else name :: taken) []).reverse

/-- Writes a file into a directory that is there. -/
def save (store : FileStore) (path : Path) (content : Bytes) : Except AccessFault FileStore :=
  let saved := store.put (straight (store.absolute path)) (.file content)
  match store.entry path with
  | .ok (.directory _) => .error .isDirectory
  | .ok (.file _) => .ok saved
  | .error fault =>
      match store.entry { path with names := path.names.dropLast } with
      | .ok (.directory _) => if fault = .missing then .ok saved else .error fault
      | .ok (.file _) => .error .notDirectory
      | .error fault => .error fault

/-- Takes away the entry at the end of a list of names. -/
def remove (entries : List (String × Entry)) : List String → List (String × Entry)
  | [] => entries
  | [name] => entries.filter fun entry => entry.1 != name
  | name :: rest => putEntry entries name (.directory (remove (below entries name) rest))

def delete (store : FileStore) (path : Path) : Except AccessFault FileStore :=
  (store.content path).map fun _ =>
    { store with entries := remove store.entries (store.absolute path) }

end FileStore
end SourceOutline
