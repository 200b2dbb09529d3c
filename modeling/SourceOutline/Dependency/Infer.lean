import SourceOutline.Declaration.Record
import SourceOutline.Dependency.Body
import SourceOutline.Dependency.Form

/-!
# Which functions a function seems to call

A function depends on another one of its file when the name of the other,
followed by an opening parenthesis, stands in the text of its body.  This is a
guess from the text: strings and comments count like code.  Functions of the
same name never depend on each other, and a function whose declaration is not
found depends on nothing.
-/

namespace SourceOutline
namespace Dependency

/-- The offsets at which lines begin, put behind those already `found` with the
last one first. -/
def lineStartsFrom (offset : Nat) (found : List Nat) : List Char → List Nat
  | [] => found
  | c :: rest =>
      lineStartsFrom (offset + 1) (if c = '\n' then (offset + 1) :: found else found) rest

def lineStarts (text : List Char) : List Nat :=
  (lineStartsFrom 0 [0] text).reverse

/-- The offset at which a line begins.  Lines before the first count as the
first, lines after the last as the last. -/
def lineStart (starts : List Nat) (line : Int) : Nat :=
  starts[min (line - 1).toNat (starts.length - 1)]?.getD 0

/-- Where a function is declared, looking first from its own line on. -/
def declarationOf? (text : List Char) (starts : List Nat) (function : FunctionRecord) :
    Option Nat :=
  let name := function.name.toList
  match Form.find name text (lineStart starts function.line) with
  | some place => some place
  | none => Form.find name text 0

/-- The name by which an identifier is called: that of its last function. -/
def calledName (functions : List FunctionRecord) (id : Int) : List Char :=
  ((functions.reverse.find? (·.id == id)).elim "" FunctionRecord.name).toList

/-- The functions among `others`, each with the name it is called by, that seem
to be called in the body of a function. -/
def callees (text : List Char) (starts : List Nat)
    (others : List (FunctionRecord × List Char)) (function : FunctionRecord) : List Int :=
  match declarationOf? text starts function with
  | none => []
  | some place =>
      let body := (Body.span text place).text text
      (others.filter fun other =>
        other.1.id != function.id && other.1.name != function.name &&
          Form.called other.2 body).map fun other => other.1.id

def put (result : List (Int × List Int)) (id : Int) (ids : List Int) : List (Int × List Int) :=
  match result with
  | [] => [(id, ids)]
  | entry :: rest => if entry.1 = id then (id, ids) :: rest else entry :: put rest id ids

/-- What each function depends on.  An identifier that comes twice has the
dependencies of its last function. -/
def infer (functions : List FunctionRecord) (text : List Char) : List (Int × List Int) :=
  let starts := lineStarts text
  let others := functions.map fun other => (other, calledName functions other.id)
  functions.foldl
    (fun result function => put result function.id (callees text starts others function)) []

end Dependency

namespace FileRecord

/-- The functions and methods of a file, each with its file and its dependencies.
Without a text nothing depends on anything. -/
def flatten (file : FileRecord) (text : Option (List Char)) : List FunctionRecord :=
  let functions := file.allFunctions
  let dependencies := text.elim [] (Dependency.infer functions)
  functions.map fun function =>
    { function with
      fileName := some file.fileName
      dependsOn := some ((dependencies.lookup function.id).getD []) }

end FileRecord
end SourceOutline
