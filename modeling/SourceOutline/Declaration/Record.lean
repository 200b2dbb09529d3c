import SourceOutline.Data.Value
import SourceOutline.Number.Total
import SourceOutline.Signature.Parameter

/-!
# Records of declarations

A record says what a declaration looks like from outside.  Functions, classes
and methods have identifiers, which are unique in a run.  A function of a flat
listing also knows its file and the functions it seems to depend on.
-/

namespace SourceOutline

structure FunctionRecord where
  id : Int
  name : String
  line : Int
  parameters : List Parameter := []
  /-- Absent when the code has no annotation; an annotation may also be empty. -/
  returnType : Option String := none
  fileName : Option String := none
  dependsOn : Option (List Int) := none
  deriving DecidableEq, Repr

/-- A class, an interface or the like, with the members that can be called. -/
structure ClassRecord where
  id : Int
  name : String
  line : Int
  /-- The head of the class up to its members. -/
  signature : String
  methods : List FunctionRecord := []
  deriving DecidableEq, Repr

structure FileRecord where
  fileName : String
  functions : List FunctionRecord := []
  classes : List ClassRecord := []
  deriving DecidableEq, Repr

namespace FileRecord

/-- How many functions, classes and methods a file declares. -/
def declarationCount (file : FileRecord) : Nat :=
  file.functions.length + total (file.classes.map fun c => 1 + c.methods.length)

def allFunctions (file : FileRecord) : List FunctionRecord :=
  file.functions ++ file.classes.flatMap ClassRecord.methods

def isEmpty (file : FileRecord) : Bool :=
  file.functions.isEmpty && file.classes.isEmpty

end FileRecord

namespace Parameter

def toValue (parameter : Parameter) : Value :=
  .record [("name", .text parameter.name), ("type", .text parameter.type),
    ("optional", .bool parameter.optional)]

end Parameter

namespace FunctionRecord

/-- Identifiers in increasing order, each once. -/
def inOrder (ids : List Int) : List Int :=
  ids.eraseDups.mergeSort (· ≤ ·)

/-- What is absent is left out. -/
def toValue (function : FunctionRecord) : Value :=
  .record <|
    [("id", .int function.id), ("functionName", .text function.name),
      ("lineNo", .int function.line),
      ("parameters", .list (function.parameters.map Parameter.toValue))]
    ++ (function.returnType.toList.map fun type => ("returnType", .text type))
    ++ (function.fileName.toList.map fun name => ("fileName", .text name))
    ++ (function.dependsOn.toList.map fun ids =>
        ("dependOn", .list ((inOrder ids).map Value.int)))

end FunctionRecord

namespace ClassRecord

def toValue (class_ : ClassRecord) : Value :=
  .record
    [("id", .int class_.id), ("className", .text class_.name), ("lineNo", .int class_.line),
      ("signature", .text class_.signature),
      ("methods", .list (class_.methods.map FunctionRecord.toValue))]

end ClassRecord

namespace FileRecord

def toValue (file : FileRecord) : Value :=
  .record
    [("fileName", .text file.fileName),
      ("functions", .list (file.functions.map FunctionRecord.toValue)),
      ("classes", .list (file.classes.map ClassRecord.toValue))]

end FileRecord
end SourceOutline
