import SourceOutline.Comment.Index
import SourceOutline.Proofs.Tree.Path

/-!
# The comment nodes of a tree

The visit of comment nodes moves a cursor through the tree.  What lies ahead of a
cursor is a forest: the tree under it, the siblings to its right, and the siblings
to the right of every node above it.  A step down puts the children of the node in
its place, and a leap drops the tree under the cursor; neither touches the rest.
So the visit lists what the forest lists, and the comment nodes of a tree are found
by going down from its root as far as the first comment on every way.
-/

namespace SourceOutline

namespace Node

mutual
/-- The comment nodes of a tree that lie below no other comment node. -/
def outermostComments : Node → List Node
  | mk info children =>
      if isCommentKind info.kind then [mk info children] else outermostCommentsAll children

def outermostCommentsAll : List Node → List Node
  | [] => []
  | node :: rest => node.outermostComments ++ outermostCommentsAll rest
end

theorem outermostComments_eq (node : Node) :
    node.outermostComments =
      if isCommentKind node.kind then [node] else outermostCommentsAll node.children := by
  cases node
  rw [outermostComments]
  rfl

@[simp] theorem outermostCommentsAll_nil : outermostCommentsAll [] = [] := by
  rw [outermostCommentsAll]

@[simp] theorem outermostCommentsAll_cons (node : Node) (rest : List Node) :
    outermostCommentsAll (node :: rest) =
      node.outermostComments ++ outermostCommentsAll rest := by
  rw [outermostCommentsAll]

theorem outermostCommentsAll_eq_flatMap (nodes : List Node) :
    outermostCommentsAll nodes = nodes.flatMap outermostComments := by
  induction nodes with
  | nil => simp
  | cons node rest ih => simp [ih]

end Node

namespace Cursor

/-- The trees to the right of the cursor and of the nodes above it. -/
def behind (cursor : Cursor) : List Node :=
  cursor.right ++ cursor.above.flatMap Rung.right

def forest (cursor : Cursor) : List Node :=
  cursor.node :: cursor.behind

theorem forest_of_firstChild?
    {cursor child : Cursor} (hchild : cursor.firstChild? = some child) :
    child.forest = cursor.node.children ++ cursor.behind := by
  unfold firstChild? at hchild
  split at hchild
  next => contradiction
  next first rest hchildren =>
    simp only [Option.some.injEq] at hchild
    rw [← hchild, hchildren]
    rfl

theorem children_of_firstChild?_none
    {cursor : Cursor} (hnone : cursor.firstChild? = none) : cursor.node.children = [] := by
  unfold firstChild? at hnone
  split at hnone
  next hchildren => exact hchildren
  next => contradiction

/-- A leap goes on with the forest behind the cursor, and there is none when this
is empty. -/
theorem forest_leap (cursor : Cursor) :
    (cursor.leap.elim [] forest) = cursor.behind := by
  obtain ⟨node, right, above⟩ := cursor
  induction above generalizing node right with
  | nil =>
      rw [leap]
      cases right with
      | nil => rfl
      | cons first rest => rfl
  | cons rung above ih =>
      rw [leap]
      cases right with
      | nil => exact ih rung.node rung.right
      | cons first rest => rfl

/-- A leap leaves behind exactly the subtree under the cursor. -/
theorem outermostCommentsAll_forest (cursor : Cursor) :
    Node.outermostCommentsAll cursor.forest =
      cursor.node.outermostComments ++
        Node.outermostCommentsAll (cursor.leap.elim [] forest) := by
  rw [forest_leap, forest, Node.outermostCommentsAll_cons]

/-- The visit adds the outermost comment nodes of all that is still in front of it. -/
theorem commentNodesFrom_eq (cursor : Cursor) (found : List Node) :
    cursor.commentNodesFrom found =
      (Node.outermostCommentsAll cursor.forest).reverse ++ found := by
  fun_induction commentNodesFrom cursor found with
  | case1 cursor found hcomment next hleap ih =>
      rw [ih, outermostCommentsAll_forest cursor, hleap, Node.outermostComments_eq,
        if_pos hcomment]
      simp
  | case2 cursor found hcomment hleap =>
      rw [outermostCommentsAll_forest, hleap, Node.outermostComments_eq, if_pos hcomment]
      simp
  | case3 cursor found hother child hchild ih =>
      rw [ih, forest_of_firstChild? hchild, forest, Node.outermostCommentsAll_cons,
        Node.outermostComments_eq, if_neg hother]
      simp [Node.outermostCommentsAll_eq_flatMap]
  | case4 cursor found hother hchild next hleap ih =>
      rw [ih, outermostCommentsAll_forest cursor, hleap, Node.outermostComments_eq,
        if_neg hother, children_of_firstChild?_none hchild]
      simp
  | case5 cursor found hother hchild hleap =>
      rw [outermostCommentsAll_forest, hleap, Node.outermostComments_eq, if_neg hother,
        children_of_firstChild?_none hchild]
      simp

end Cursor

theorem Node.commentNodes_eq (root : Node) : root.commentNodes = root.outermostComments := by
  unfold commentNodes
  rw [Cursor.commentNodesFrom_eq]
  simp [Cursor.forest, Cursor.behind, Cursor.ofRoot]

end SourceOutline
