/-!
# The vocabulary of a grammar

Declarations look much the same in every language, but each grammar has its own
words for the kinds of its nodes and for the fields between them.  A vocabulary
lists those words by the part they play.  One kind may play several parts; which
part is tried first is decided where the vocabulary is used.
-/

namespace SourceOutline

/-- What to do with a node that wraps members of a class: look at all its named
children, or only at the one under a field. -/
inductive Unwrap where
  | flatten
  | field (name : String)
  deriving DecidableEq, Repr

structure Vocabulary where
  /-- Named functions, methods and generators. -/
  functionKinds : List String := []
  /-- Bindings of a name to a value. -/
  bindingKinds : List String := []
  bindingValueFields : List String := ["value", "right"]
  /-- Function values without a name: arrows, lambdas, closures. -/
  functionValueKinds : List String := []
  /-- Classes, interfaces, enumerations and the like. -/
  classKinds : List String := []
  classBodyField : String := "body"
  /-- Whether a class without a member list is only a mention of one. -/
  classRequiresBody : Bool := false
  /-- Member lists: a function directly inside one is never a free function. -/
  memberListKinds : List String := []
  /-- Wrappers around exported declarations. -/
  exportKinds : List String := []
  typeAliasKinds : List String := []
  typeAliasValueField : String := "value"
  /-- Types of functions. -/
  functionTypeKinds : List String := []
  /-- Properties of object literals. -/
  propertyKinds : List String := []
  memberFunctionKinds : List String := []
  memberPropertyKinds : List String := []
  /-- Member declarations without a body. -/
  memberPrototypeKinds : List String := []
  functionDeclaratorKinds : List String := []
  /-- Wrappers around members. -/
  memberWrappers : List (String × Unwrap) := []
  /-- The fields under which a declaration has its name, the first choice first. -/
  nameFields : List String := ["name", "property", "left", "key", "pattern", "declarator", "type"]
  returnTypeFields : List String := ["return_type"]
  deriving DecidableEq, Repr

end SourceOutline
