import SourceOutline.DocTags
import SourceOutline.Signature.Name

/-!
# Parameters and result types

The parameters of a function come from the children of its parameter list.  A
child may be a plain name, a destructuring pattern, a rest parameter, or a
composite of a target with a type, a default or a mark that makes it optional.
One child may also declare several names of one type.

Types written in the code win.  Tags of a documentation comment fill the gaps
that are left.
-/

namespace SourceOutline

/-- A parameter.  The name of a destructuring parameter is the pattern as it
stands in the source.  The type is empty when it is not known. -/
structure Parameter where
  name : String
  type : String := ""
  optional : Bool := false
  deriving DecidableEq, Repr

namespace Parameter

def restType : String := "rest"
def objectType : String := "object"
def arrayType : String := "array"

/-- Destructuring patterns and the types they stand for. -/
def patternTypes : List (String × String) :=
  [("object_pattern", objectType), ("array_pattern", arrayType)]

def restKinds : List String :=
  ["rest_pattern", "rest_parameter", "list_splat_pattern", "dictionary_splat_pattern",
    "splat_parameter", "hash_splat_parameter", "variadic_parameter",
    "variadic_parameter_declaration", "spread_parameter"]

/-- Kinds that make a parameter optional by themselves. -/
def optionalKinds : List String :=
  ["optional_parameter", "optional_parameter_declaration"]

def skippedKinds : List String :=
  ["comment", "line_comment", "block_comment", "keyword_separator", "positional_separator",
    "decorator", "attribute_list", "modifiers", "accessibility_modifier",
    "variadic_parameter_declarator"]

def targetFields : List String := ["pattern", "name", "left", "declarator"]
def defaultFields : List String := ["value", "default_value", "right", "default"]

/-- The type written at a parameter, empty when there is none.  A spread
parameter carries the type of its elements as a bare child. -/
def writtenType (node : Node) (source : Bytes) : List Char :=
  match node.child? "type" with
  | some type => type.annotationText source
  | none =>
      if node.kind = "spread_parameter" then
        match node.namedChildren.find? fun child =>
            !(["variable_declarator", "modifiers"].contains child.kind) with
        | some element => element.text source ++ "...".toList
        | none => []
      else []

def hasDefault (node : Node) : Bool :=
  (node.firstChild? defaultFields).isSome

/-- The node that names a composite parameter. -/
def target? (node : Node) : Option Node :=
  match node.firstChild? targetFields with
  | some target => some target
  | none =>
      ((node.childrenBut "type").filter Node.named).find? fun child =>
        !skippedKinds.contains child.kind

/-- The name of a rest parameter without its dots or stars. -/
def restName (node : Node) (source : Bytes) : List Char :=
  match node.child? "name" with
  | some name => name.boundName source
  | none =>
      let inner := node.namedChildren.findSome? fun child =>
        if child.isIdentifier || (patternTypes.lookup child.kind).isSome then
          some (child.text source)
        else if child.kind = "variable_declarator" then some (child.boundName source)
        else none
      match inner with
      | some name => name
      | none =>
          let text := node.text source
          match Text.trimLeftOf ['.', '*', '&'] text with
          | [] => text
          | name => name

def orElse (type : List Char) (other : String) : String :=
  if type.isEmpty then other else String.ofList type

/-- The parameter that a target names, with the type and mark of the whole. -/
def ofTarget (target : Node) (source : Bytes) (type : List Char) (optional : Bool) : Parameter :=
  match patternTypes.lookup target.kind with
  | some pattern => ⟨String.ofList (target.text source), pattern, optional⟩
  | none =>
      if restKinds.contains target.kind then
        ⟨String.ofList (restName target source), orElse type restType, optional⟩
      else ⟨String.ofList (target.boundName source), String.ofList type, optional⟩

def ofComposite (node : Node) (source : Bytes) : List Parameter :=
  let type := writtenType node source
  let optional := optionalKinds.contains node.kind || hasDefault node
  match node.childrenAt "name" with
  | first :: second :: rest =>
      (first :: second :: rest).map fun name =>
        ⟨String.ofList (name.text source), String.ofList type, optional⟩
  | _ => (target? node).toList.map fun target => ofTarget target source type optional

/-- The parameters that one child of a parameter list declares. -/
def ofNode (node : Node) (source : Bytes) : List Parameter :=
  if skippedKinds.contains node.kind || !node.named then []
  else
    match patternTypes.lookup node.kind with
    | some pattern => [{ name := String.ofList (node.text source), type := pattern }]
    | none =>
        if restKinds.contains node.kind then
          [{ name := String.ofList (restName node source)
             type := orElse (writtenType node source) restType }]
        else if node.isIdentifier then [{ name := String.ofList (node.text source) }]
        else ofComposite node source

/-- Gives a parameter without a type the type its tag declares. -/
def fill (tags : DocTags) (parameter : Parameter) : Parameter :=
  if parameter.type.isEmpty then
    { parameter with type := (tags.typeOf? parameter.name).getD parameter.type }
  else parameter

end Parameter

namespace Node

/-- The children of the parameter list of a function.  The list may hang from a
declarator of the function, at any depth. -/
def parameterNodes (node : Node) : List Node :=
  match node.child? "parameters" with
  | some list => if list.isIdentifier then [list] else list.namedChildren
  | none =>
      match node.child? "parameter" with
      | some single => [single]
      | none =>
          match _h : node.child? "declarator" with
          | some declarator => declarator.parameterNodes
          | none => []
termination_by node.size
decreasing_by exact size_lt_of_child? _h

def writtenParameters (node : Node) (source : Bytes) : List Parameter :=
  node.parameterNodes.flatMap fun child => Parameter.ofNode child source

/-- The parameters of a function in order, with tags filling the gaps. -/
def parameters (node : Node) (source : Bytes) (tags : DocTags) : List Parameter :=
  (node.writtenParameters source).map (Parameter.fill tags)

/-- The result type of a function: the one under the first of `fields` that the
function has, else the one its tags declare. -/
def returnType (node : Node) (source : Bytes) (fields : List String) (tags : DocTags) :
    Option String :=
  match node.firstChild? fields with
  | some type => some (String.ofList (type.annotationText source))
  | none => tags.returns

end Node
end SourceOutline
