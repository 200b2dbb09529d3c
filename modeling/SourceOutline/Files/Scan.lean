import SourceOutline.Files.Store
import SourceOutline.Log.Event

/-!
# Finding the files of a directory

A scan goes through a directory and all that is below it, except hidden
directories, directories owned by package managers, and directories that the
caller names.  The directory at which a scan begins is never left out.  The
files come out sorted, so the order in which a directory lists its entries does
not show.

A directory that the scan enters may refuse to be listed.  The directories are
entered in the order of their paths, and the first that refuses ends the scan.
-/

namespace SourceOutline

def packageDirectories : List String :=
  ["node_modules", "bower_components", "jspm_packages", "venv", "virtualenv", "__pycache__",
    "site-packages", "__pypackages__", "vendor", "Pods"]

def isHidden (name : String) : Bool :=
  name.toList.head? == some '.'

/-- Whether a scan leaves out the directories with a name. -/
def isExcluded (extra : List String) (name : String) : Bool :=
  isHidden name || packageDirectories.contains name || extra.contains name

mutual
/-- The names that lead from a directory entry to the files a scan reaches
through it. -/
def Entry.reached (extra : List String) (name : String) : Entry → List (List String)
  | .file _ => [[name]]
  | .directory entries =>
      if isExcluded extra name then [] else (reachedAll extra entries).map (name :: ·)

/-- The names that lead from a directory to the files a scan reaches. -/
def reachedAll (extra : List String) : List (String × Entry) → List (List String)
  | [] => []
  | (name, entry) :: rest => entry.reached extra name ++ reachedAll extra rest
end

mutual
/-- The names that lead from a directory entry to the directories a scan enters
through it. -/
def Entry.entered (extra : List String) (name : String) : Entry → List (List String)
  | .file _ => []
  | .directory entries =>
      if isExcluded extra name then []
      else [name] :: (enteredAll extra entries).map (name :: ·)

/-- The names that lead from a directory to the directories below it that a scan
enters. -/
def enteredAll (extra : List String) : List (String × Entry) → List (List String)
  | [] => []
  | (name, entry) :: rest => entry.entered extra name ++ enteredAll extra rest
end

/-- Why a directory cannot be scanned. -/
inductive ScanFault where
  /-- The path is not a directory. -/
  | notDirectory (path : String)
  /-- The path cannot be used. -/
  | access (fault : AccessFault) (path : String)
  deriving DecidableEq, Repr

namespace ScanFault

def text : ScanFault → String
  | notDirectory path => "Not a directory: " ++ path
  | access fault path => fault.text path

end ScanFault

def joined (directory name : String) : String :=
  if directory.toList.getLast? = some '/' then directory ++ name else directory ++ "/" ++ name

namespace FileStore

/-- Why a directory cannot be listed that a scan reaches from `top` by some names.
The scan puts the names behind the text of `top`, even if this is a single dot. -/
def listingFault? (store : FileStore) (top : Path) (names : List String) : Option ScanFault :=
  let text := names.foldl joined top.text
  if longestPath < text.utf8ByteSize then some (.access .nameTooLong text)
  else (store.access.unlisted (top.append names)).map (.access · text)

/-- The fault of the first directory that cannot be listed. -/
def firstFault? (store : FileStore) (extra : List String) (top : Path)
    (entries : List (String × Entry)) : Option ScanFault :=
  (([] :: enteredAll extra entries).mergeSort Path.namesBefore).findSome?
    (store.listingFault? top)

def filesBelow (store : FileStore) (extra : List String) (directory : Path) :
    Except ScanFault (List Path) :=
  match store.entry directory with
  | .error fault => .error (.access fault directory.text)
  | .ok (.file _) => .error (.access .notDirectory directory.text)
  | .ok (.directory entries) =>
      match store.firstFault? extra directory entries with
      | some fault => .error fault
      | none => .ok ((reachedAll extra entries).map directory.append)

/-- The files below a directory with one of the given extensions, in order. -/
def findFiles (store : FileStore) (extra : List String) (directory : Path)
    (extensions : List String) : Except ScanFault (List Path) :=
  match store.seen? directory with
  | .error fault => .error (.access fault directory.text)
  | .ok (some (.directory _)) =>
      let wanted := extensions.map lowerCase
      (store.filesBelow extra directory).map fun files =>
        (files.filter fun file => wanted.contains file.extension).mergeSort Path.before
  | .ok _ => .error (.notDirectory directory.text)

def inOrder (texts : List String) : List String :=
  texts.eraseDups.mergeSort fun a b => decide (a ≤ b)

/-- The extensions of the files below a directory, or the defaults when there are
none or the directory cannot be scanned.  `shown` is the directory as the caller
wrote it. -/
def detectExtensions (store : FileStore) (extra : List String) (shown : String)
    (directory : Path) (defaults : List String) :
    Except PathFault (List String × List Event) :=
  match store.pathFault? directory.text with
  | some fault => .error fault
  | none =>
      match store.filesBelow extra directory with
      | .error fault =>
          .ok (defaults, [⟨.warning, "extension_detection_failed",
            [("directory", .text shown), ("error", .text fault.text)]⟩])
      | .ok files =>
          match inOrder ((files.map Path.extension).filter (· != "")) with
          | [] =>
              .ok (defaults, [⟨.debug, "no_extensions_detected",
                [("directory", .text shown), ("defaults", .texts defaults)]⟩])
          | found => .ok (found, [])

end FileStore
end SourceOutline
