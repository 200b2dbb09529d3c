import SourceOutline.Comment.Index
import SourceOutline.Declaration.Members
import SourceOutline.Declaration.Record
import SourceOutline.Declaration.Walk
import SourceOutline.Log.Event

/-!
# From a tree to records

A source unit is what is known of one file once it is parsed.  Its records are
made from the stops of the walk, in order, taking identifiers from a counter that
all of them share.  A declaration without a name makes no record and takes no
identifier.  A class takes its identifier before its methods, which take the next ones.
-/

namespace SourceOutline

/-- A parsed file with its vocabulary, its comments and the number of lines that
may lie between a comment and its declaration. -/
structure SourceUnit where
  source : Bytes
  root : Node
  vocabulary : Vocabulary
  comments : CommentIndex
  limit : Int

/-- A declaration outside any class body, as a record. -/
inductive Declared where
  | function (record : FunctionRecord)
  | classLike (record : ClassRecord)
  deriving DecidableEq, Repr

namespace Declared

/-- How many identifiers a declaration takes. -/
def count : Declared → Nat
  | function _ => 1
  | classLike record => 1 + record.methods.length

def function? : Declared → Option FunctionRecord
  | function record => some record
  | classLike _ => none

def class? : Declared → Option ClassRecord
  | function _ => none
  | classLike record => some record

def functionFound (record : FunctionRecord) : Event :=
  ⟨.debug, "function_found", [("name", .text record.name), ("line", .int record.line)]⟩

def classFound (record : ClassRecord) : Event :=
  ⟨.debug, "class_found", [("name", .text record.name), ("line", .int record.line),
    ("methods", .int record.methods.length)]⟩

/-- The events that tell of a declaration: methods are told before their class. -/
def events : Declared → List Event
  | function record => [functionFound record]
  | classLike record => record.methods.map functionFound ++ [classFound record]

end Declared

namespace SourceUnit

def ofSource (source : Bytes) (root : Node) (style : CommentStyle) (vocabulary : Vocabulary)
    (limit : Int) : SourceUnit :=
  { source, root, vocabulary, comments := .ofSource style source (some root), limit }

def tagsFor (unit : SourceUnit) (node : Node) : DocTags :=
  .ofComment (unit.comments.nearest node.start unit.limit)

/-- The head of a class up to its body, or the bare name when there is none. -/
def classSignature (unit : SourceUnit) (node : Node) (name : List Char) : List Char :=
  let bare := "class ".toList ++ name
  match node.child? unit.vocabulary.classBodyField with
  | none => bare
  | some body =>
      match Text.trim (unit.source.textBetween node.start body.start) with
      | [] => bare
      | head => head

def functionRecord (unit : SourceUnit) (id : Int) (name : List Char) (node signature : Node) :
    FunctionRecord :=
  let tags := unit.tagsFor node
  { id
    name := String.ofList name
    line := unit.source.lineAt node.start
    parameters := signature.parameters unit.source tags
    returnType := signature.returnType unit.source unit.vocabulary.returnTypeFields tags }

def classRecord (unit : SourceUnit) (id : Int) (name : List Char) (node : Node)
    (methods : List FunctionRecord) : ClassRecord :=
  { id
    name := String.ofList name
    line := unit.source.lineAt node.start
    signature := String.ofList (unit.classSignature node name)
    methods }

end SourceUnit

/-- Work that takes identifiers from a counter, which stands at the next free one. -/
abbrev Allocation := StateM Int

def allocateId : Allocation Int := do
  let id ← get
  set (id + 1)
  return id

namespace SourceUnit

def buildFunction (unit : SourceUnit) (node signature : Node) :
    Allocation (Option FunctionRecord) :=
  match unit.vocabulary.declaredName node unit.source with
  | [] => return none
  | name => do
      let id ← allocateId
      return some (unit.functionRecord id name node signature)

def buildMethods (unit : SourceUnit) : List Member → Allocation (List FunctionRecord)
  | [] => return []
  | member :: rest => do
      let method ← unit.buildFunction member.node member.signature
      let others ← unit.buildMethods rest
      return method.toList ++ others

def buildClass (unit : SourceUnit) (node : Node) : Allocation (Option ClassRecord) :=
  match unit.vocabulary.declaredName node unit.source with
  | [] => return none
  | name => do
      let id ← allocateId
      let methods ← unit.buildMethods (unit.vocabulary.members node)
      return some (unit.classRecord id name node methods)

def buildVisit (unit : SourceUnit) : Visit → Allocation (Option Declared)
  | .function node signature => do
      return (← unit.buildFunction node signature).map .function
  | .classLike node => do
      return (← unit.buildClass node).map .classLike

def buildVisits (unit : SourceUnit) : List Visit → Allocation (List Declared)
  | [] => return []
  | visit :: rest => do
      let declared ← unit.buildVisit visit
      let others ← unit.buildVisits rest
      return declared.toList ++ others

end SourceUnit

/-- The declarations of a unit, and the first identifier that is still free. -/
structure Assembly where
  declared : List Declared
  nextId : Int

namespace Assembly

def functions (assembly : Assembly) : List FunctionRecord :=
  assembly.declared.filterMap Declared.function?

def classes (assembly : Assembly) : List ClassRecord :=
  assembly.declared.filterMap Declared.class?

def events (assembly : Assembly) : List Event :=
  assembly.declared.flatMap Declared.events

def file (assembly : Assembly) (fileName : String) : FileRecord :=
  { fileName, functions := assembly.functions, classes := assembly.classes }

end Assembly

namespace SourceUnit

/-- Assembles a unit with a counter that stands at `id`. -/
def assemble (unit : SourceUnit) (id : Int) : Assembly :=
  let (declared, nextId) := (unit.buildVisits (unit.vocabulary.visits unit.root)).run id
  { declared, nextId }

end SourceUnit
end SourceOutline
