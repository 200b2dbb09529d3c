import SourceOutline.Tree
import SourceOutline.Text.Blank

/-!
# Names in a tree

A name may be buried under declarators, as in `*p` or `&r`.  The bound name of a
node is found by going down its declarators and names as far as they go.
-/

namespace SourceOutline

def identifierKinds : List String :=
  ["identifier", "shorthand_property_identifier_pattern", "variable_name", "self",
    "self_parameter", "this"]

namespace Node

def isIdentifier (node : Node) : Bool :=
  identifierKinds.contains node.kind

/-- The node at the end of the chain of declarators and names. -/
def innermost (node : Node) : Node :=
  match _h : node.firstChild? ["declarator", "name"] with
  | some inner => inner.innermost
  | none => node
termination_by node.size
decreasing_by exact size_lt_of_firstChild? _h

/-- The name that a node binds.  When the innermost node is itself no name, its
first named child that is one gives the name, and failing that its whole text. -/
def boundName (node : Node) (source : Bytes) : List Char :=
  let inner := node.innermost
  if inner.isIdentifier then inner.text source
  else ((inner.namedChildren.find? isIdentifier).getD inner).text source

end Node

/-- Drops the colon or arrow that some grammars leave in front of a type. -/
def annotation (text : List Char) : List Char :=
  Text.trim <|
    match Text.trim text with
    | ':' :: type => type
    | '-' :: '>' :: type => type
    | type => type

namespace Node

def annotationText (node : Node) (source : Bytes) : List Char :=
  annotation (node.text source)

end Node
end SourceOutline
