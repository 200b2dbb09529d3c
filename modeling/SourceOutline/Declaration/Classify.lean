import SourceOutline.Language.Vocabulary
import SourceOutline.Signature.Name

/-!
# What a node declares

A node is classified by its kind and by the vocabulary of its grammar.  Where a
kind plays several parts the first part in the order of `classify` decides, even
if the node then turns out to declare nothing.
-/

namespace SourceOutline

/-- What a node declares.  Where a value carries the signature it is given. -/
inductive Shape where
  | function
  | binding (value : Node)
  | classLike
  | exported
  | typeAlias (value : Node)
  | property (value : Node)
  | unrecognized

namespace Shape

/-- The node that carries the signature of the function declared by `node`. -/
def signature? (node : Node) : Shape → Option Node
  | function => some node
  | binding value => some value
  | typeAlias value => some value
  | property value => some value
  | classLike => none
  | exported => none
  | unrecognized => none

def word : Shape → String
  | function => "function"
  | binding _ => "binding"
  | classLike => "class"
  | exported => "export"
  | typeAlias _ => "type_alias"
  | property _ => "property"
  | unrecognized => "unrecognized"

end Shape

namespace Vocabulary

/-- The function bound by a binding or a property. -/
def functionValue? (vocabulary : Vocabulary) (node : Node) : Option Node :=
  vocabulary.bindingValueFields.findSome? fun field =>
    (node.child? field).filter fun value => vocabulary.functionValueKinds.contains value.kind

/-- The signature of a member that holds a function: an assigned function, or a
type of functions. -/
def memberValue? (vocabulary : Vocabulary) (node : Node) : Option Node :=
  match vocabulary.functionValue? node with
  | some value => some value
  | none =>
      (node.child? "type").bind fun type =>
        let inner :=
          if type.kind = "type_annotation" then type.namedChildren.head?.getD type else type
        if vocabulary.functionTypeKinds.contains inner.kind then some inner else none

/-- Whether a declarator leads to a function.  A function declarator around a
parenthesised one declares a pointer to a function. -/
def leadsToFunction (vocabulary : Vocabulary) (declarator : Node) : Bool :=
  match _h : declarator.child? "declarator" with
  | some inner =>
      if vocabulary.functionDeclaratorKinds.contains declarator.kind then
        inner.kind != "parenthesized_declarator"
      else vocabulary.leadsToFunction inner
  | none => vocabulary.functionDeclaratorKinds.contains declarator.kind
termination_by declarator.size
decreasing_by exact Node.size_lt_of_child? _h

/-- Whether a declaration without a body declares a function. -/
def isPrototype (vocabulary : Vocabulary) (node : Node) : Bool :=
  (node.child? "declarator").any vocabulary.leadsToFunction

def classify (vocabulary : Vocabulary) (node : Node) : Shape :=
  if vocabulary.functionKinds.contains node.kind then .function
  else if vocabulary.classKinds.contains node.kind then
    if vocabulary.classRequiresBody && (node.child? vocabulary.classBodyField).isNone then
      .unrecognized
    else .classLike
  else if vocabulary.exportKinds.contains node.kind then .exported
  else if vocabulary.bindingKinds.contains node.kind then
    match vocabulary.functionValue? node with
    | some value => .binding value
    | none => .unrecognized
  else if vocabulary.typeAliasKinds.contains node.kind then
    match node.child? vocabulary.typeAliasValueField with
    | some value =>
        if vocabulary.functionTypeKinds.contains value.kind then .typeAlias value
        else .unrecognized
    | none => .unrecognized
  else if vocabulary.propertyKinds.contains node.kind then
    match vocabulary.functionValue? node with
    | some value => .property value
    | none => .unrecognized
  else .unrecognized

def memberAccessKinds : List String :=
  ["member_expression", "attribute", "member_access_expression", "field_expression"]

def memberNameFields : List String := ["property", "attribute", "name", "field"]

def stringKeyKinds : List String := ["string", "string_literal"]

/-- The name that a name node gives: the member of a member access, a quoted key
without its quotes, or else the bound name. -/
def nameText (node : Node) (source : Bytes) : List Char :=
  let member :=
    if memberAccessKinds.contains node.kind then node.firstChild? memberNameFields else none
  match member with
  | some name => name.text source
  | none =>
      if stringKeyKinds.contains node.kind then
        Text.trimOf ['\x27', '\x22', '\x60'] (node.text source)
      else node.boundName source

/-- The name of a declaration, empty when it has none. -/
def declaredName (vocabulary : Vocabulary) (node : Node) (source : Bytes) : List Char :=
  match node.firstChild? vocabulary.nameFields with
  | some name => nameText name source
  | none => []

end Vocabulary
end SourceOutline
