import SourceOutline.Declaration.Classify

/-!
# The members of a class that can be called

Members are the named children of the body of a class, seen through wrappers.
A wrapper is replaced, at its place, by what it wraps, so the members come out
in the order in which they stand.
-/

namespace SourceOutline

/-- A member that can be called, with the node that carries its signature. -/
structure Member where
  node : Node
  signature : Node

namespace Vocabulary

/-- The member that a node is, if it can be called. -/
def member? (vocabulary : Vocabulary) (node : Node) : Option Member :=
  if vocabulary.memberFunctionKinds.contains node.kind then some ⟨node, node⟩
  else if vocabulary.memberPrototypeKinds.contains node.kind then
    if vocabulary.isPrototype node then some ⟨node, node⟩ else none
  else if vocabulary.memberPropertyKinds.contains node.kind then
    (vocabulary.memberValue? node).map fun value => ⟨node, value⟩
  else none

/-- The nodes that stand in place of a wrapper. -/
def unwrapped (node : Node) : Unwrap → List Node
  | .flatten => node.namedChildren
  | .field name => (node.child? name).toList

theorem sizes_unwrapped_lt (node : Node) (unwrap : Unwrap) :
    Node.sizes (unwrapped node unwrap) < node.size := by
  cases unwrap with
  | flatten => exact node.sizes_namedChildren_lt
  | field name =>
      cases h : node.child? name with
      | none => simpa [unwrapped, h] using node.size_pos
      | some child => simpa [unwrapped, h] using Node.size_lt_of_child? h

/-- The members among the nodes still to come. -/
def membersFrom (vocabulary : Vocabulary) (pending : List Node) : List Member :=
  match pending with
  | [] => []
  | node :: rest =>
      match vocabulary.memberWrappers.lookup node.kind with
      | some unwrap => vocabulary.membersFrom (unwrapped node unwrap ++ rest)
      | none =>
          match vocabulary.member? node with
          | some member => member :: vocabulary.membersFrom rest
          | none => vocabulary.membersFrom rest
termination_by Node.sizes pending
decreasing_by
  · have := sizes_unwrapped_lt node unwrap
    simp only [Node.sizes_append, Node.sizes_cons]
    omega
  all_goals
    have := node.size_pos
    simp only [Node.sizes_cons]
    omega

def members (vocabulary : Vocabulary) (node : Node) : List Member :=
  match node.child? vocabulary.classBodyField with
  | some body => vocabulary.membersFrom body.namedChildren
  | none => []

end Vocabulary
end SourceOutline
