import SourceOutline.Text.Lower
import SourceOutline.Text.Split

/-!
# Paths

A path is a root and a list of names.  Empty names and single dots are dropped
when a path is read; double dots are kept, because the directory they leave may
be anywhere.  The suffix of a path begins at the last dot of its last name,
unless that dot is the first or the last character of the name.
-/

namespace SourceOutline

structure Path where
  /-- Empty for a relative path, else one slash or exactly two. -/
  root : String := ""
  names : List String := []
  deriving DecidableEq, Repr

namespace Path

def rootOf (text : List Char) : String :=
  match text.takeWhile (· == '/') with
  | [] => ""
  | ['/', '/'] => "//"
  | _ => "/"

def ofString (text : String) : Path :=
  let parts := (Text.split '/' text.toList).map String.ofList
  { root := rootOf text.toList, names := parts.filter fun part => part != "" && part != "." }

def isAbsolute (path : Path) : Bool :=
  path.root != ""

/-- The path as it is shown; the current directory is a dot. -/
def text (path : Path) : String :=
  if path.root == "" && path.names.isEmpty then "."
  else path.root ++ String.intercalate "/" path.names

def append (path : Path) (names : List String) : Path :=
  { path with names := path.names ++ names }

def name (path : Path) : String :=
  path.names.getLast?.getD ""

def suffixOf (name : List Char) : List Char :=
  let tail := (name.reverse.takeWhile (· != '.')).reverse
  if tail.isEmpty || name.length ≤ tail.length + 1 then [] else '.' :: tail

def suffix (path : Path) : String :=
  String.ofList (suffixOf path.name.toList)

/-- The suffix in lower case, by which languages are told apart. -/
def extension (path : Path) : String :=
  lowerCase path.suffix

/-- The order of paths: name by name, each by its characters. -/
def namesBefore : List String → List String → Bool
  | [], _ => true
  | _ :: _, [] => false
  | a :: as, b :: bs => a < b || (a == b && namesBefore as bs)

def before (a b : Path) : Bool :=
  namesBefore a.names b.names

end Path
end SourceOutline
