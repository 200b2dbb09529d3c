import SourceOutline.Tree.Rows
import Mathlib.Data.List.Flatten
import Mathlib.Data.List.Perm.Subperm

/-!
# Trees as listings of their nodes

The pre-order listing of a forest is the concatenation of the listings of its
trees, so whatever is kept, left out or moved among the trees shows in the
listing in the same way.  Two facts are used by the walks over a tree: a choice
among the children of a node lists a part of what the node lists, and a child
that is set apart takes its own listing with it.

The places that rows give to the nodes of a tree are those of its listing,
counted from zero.  Hence no two nodes of such a tree have the same place.
-/

namespace SourceOutline
namespace Node

theorem preorder_eq (node : Node) :
    node.preorder = node :: preorderAll node.children := by
  cases node
  rw [preorder]
  rfl

@[simp] theorem preorderAll_nil : preorderAll [] = [] := by
  rw [preorderAll]

@[simp] theorem preorderAll_cons (node : Node) (rest : List Node) :
    preorderAll (node :: rest) = node.preorder ++ preorderAll rest := by
  rw [preorderAll]

theorem preorderAll_eq_flatMap (nodes : List Node) :
    preorderAll nodes = nodes.flatMap preorder := by
  induction nodes with
  | nil => simp
  | cons node rest ih => simp [ih]

@[simp] theorem preorderAll_append (front back : List Node) :
    preorderAll (front ++ back) = preorderAll front ++ preorderAll back := by
  simp [preorderAll_eq_flatMap]

theorem preorderAll_sublist
    {part whole : List Node} (hpart : part.Sublist whole) :
    (preorderAll part).Sublist (preorderAll whole) := by
  rw [preorderAll_eq_flatMap, preorderAll_eq_flatMap]
  exact hpart.flatMap preorder

theorem preorderAll_perm
    {nodes others : List Node} (hperm : nodes.Perm others) :
    (preorderAll nodes).Perm (preorderAll others) := by
  rw [preorderAll_eq_flatMap, preorderAll_eq_flatMap]
  exact hperm.flatMap_right preorder

theorem preorderAll_sublist_preorder
    {node : Node} {part : List Node} (hpart : part.Sublist node.children) :
    (preorderAll part).Sublist node.preorder := by
  rw [preorder_eq]
  exact (preorderAll_sublist hpart).cons node

theorem child?_sublist_children
    {node child : Node} {name : String} (hchild : node.child? name = some child) :
    [child].Sublist node.children :=
  List.singleton_sublist.mpr (List.mem_of_find?_eq_some hchild)

/-- A child under a field and the others are all the children. -/
theorem children_perm_of_child?
    {node child : Node} {name : String} (hchild : node.child? name = some child) :
    node.children.Perm (child :: node.childrenBut name) := by
  unfold child? at hchild
  unfold childrenBut
  obtain ⟨hfield, front, back, hsplit, hfront⟩ :=
    List.find?_eq_some_iff_append.mp hchild
  have hnone : ∀ other ∈ front, ¬ hasField name other = true := by
    intro other hother
    simpa using hfront other hother
  have herase :
      (front ++ child :: back).eraseP (hasField name) = front ++ back := by
    rw [List.eraseP_append_right _ hnone, List.eraseP_cons_of_pos hfield]
  rw [hsplit, herase]
  exact List.perm_middle

/-! ## Places -/

/-- No two nodes of a tree have the same place. -/
def DistinctPlaces (root : Node) : Prop :=
  (root.preorder.map place).Nodup

instance (root : Node) : Decidable root.DistinctPlaces :=
  inferInstanceAs (Decidable (root.preorder.map place).Nodup)

def placesRead (trees : List (Nat × Node)) : List Nat :=
  (preorderAll (trees.map Prod.snd)).map place

/-- A row is listed in front of the trees that have already been read: those
which become its children are the first of them. -/
theorem placesRead_join
    (row : TreeRow × Nat) (trees : List (Nat × Node)) :
    placesRead (TreeRow.join row trees) = row.2 :: placesRead trees := by
  let deeper := trees.takeWhile fun tree => decide (row.1.depth < tree.1)
  let others := trees.dropWhile fun tree => decide (row.1.depth < tree.1)
  have hsplit : deeper ++ others = trees := List.takeWhile_append_dropWhile
  have hlisted :
      placesRead (TreeRow.join row trees) = row.2 :: (placesRead deeper ++ placesRead others) := by
    simp [placesRead, TreeRow.join, preorder_eq, children, place, info, TreeRow.info, deeper,
      others]
  rw [hlisted, ← hsplit]
  simp [placesRead]

theorem placesRead_foldr_join (rows : List (TreeRow × Nat)) :
    placesRead (rows.foldr TreeRow.join []) = rows.map Prod.snd := by
  induction rows with
  | nil => simp [placesRead]
  | cons row rest ih =>
      rw [List.foldr_cons, placesRead_join, ih, List.map_cons]

/-- The nodes of a tree written as rows have the places of the pre-order listing,
counted from zero. -/
theorem places_ofRows?
    {rows : List TreeRow} {root : Node} (hroot : ofRows? rows = some root) :
    root.preorder.map place <+: List.range rows.length := by
  unfold ofRows? at hroot
  obtain ⟨tree, hhead, rfl⟩ := Option.map_eq_some_iff.mp hroot
  have hread := placesRead_foldr_join rows.zipIdx
  rw [List.head?_eq_some_iff] at hhead
  obtain ⟨others, hothers⟩ := hhead
  rw [hothers] at hread
  have hrange : rows.zipIdx.map Prod.snd = List.range rows.length := by
    rw [List.zipIdx_map_snd, List.range_eq_range']
  rw [← hrange, ← hread]
  simp [placesRead]

theorem distinctPlaces_ofRows?
    {rows : List TreeRow} {root : Node} (hroot : ofRows? rows = some root) :
    root.DistinctPlaces :=
  (places_ofRows? hroot).sublist.nodup List.nodup_range

end Node
end SourceOutline
