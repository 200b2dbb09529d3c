import SourceOutline.Declaration.Classify

/-!
# Walking a tree for its declarations

The walk goes through a tree in pre-order with a list of the nodes still to
come.  It stops at every class, and at every node that declares a function
unless the node stands directly in a member list.  It does not go into the
member list of a class: members are found by `Vocabulary.members`.
-/

namespace SourceOutline

inductive Visit where
  | function (node signature : Node)
  | classLike (node : Node)

/-- A node still to come, with the kind of its parent. -/
structure Pending where
  parent : Option String
  node : Node

namespace Pending

def below (parent : Node) (children : List Node) : List Pending :=
  children.map fun child => ⟨some parent.kind, child⟩

def size (pending : List Pending) : Nat :=
  Node.sizes (pending.map node)

@[simp] theorem size_cons (first : Pending) (rest : List Pending) :
    size (first :: rest) = first.node.size + size rest := rfl

@[simp] theorem size_below_append (parent : Node) (children : List Node) (rest : List Pending) :
    size (below parent children ++ rest) = Node.sizes children + size rest := by
  simp [size, below, Function.comp_def]

end Pending

namespace Vocabulary

def inMemberList (vocabulary : Vocabulary) (parent : Option String) : Bool :=
  parent.any vocabulary.memberListKinds.contains

/-- The stops of the walk over the nodes still to come. -/
def visitsFrom (vocabulary : Vocabulary) (pending : List Pending) : List Visit :=
  match pending with
  | [] => []
  | ⟨parent, node⟩ :: rest =>
      match vocabulary.classify node with
      | .classLike =>
          .classLike node ::
            vocabulary.visitsFrom
              (Pending.below node (node.childrenBut vocabulary.classBodyField) ++ rest)
      | shape =>
          match shape.signature? node with
          | some signature =>
              if vocabulary.inMemberList parent then
                vocabulary.visitsFrom (Pending.below node node.children ++ rest)
              else
                .function node signature ::
                  vocabulary.visitsFrom (Pending.below node node.children ++ rest)
          | none => vocabulary.visitsFrom (Pending.below node node.children ++ rest)
termination_by Pending.size pending
decreasing_by
  · have := node.sizes_childrenBut_lt vocabulary.classBodyField
    simp only [Pending.size_below_append, Pending.size_cons]
    omega
  all_goals
    have := node.size_eq
    simp only [Pending.size_below_append, Pending.size_cons]
    omega

/-- The declarations of a tree, in the order in which they stand. -/
def visits (vocabulary : Vocabulary) (root : Node) : List Visit :=
  vocabulary.visitsFrom [⟨none, root⟩]

end Vocabulary
end SourceOutline
