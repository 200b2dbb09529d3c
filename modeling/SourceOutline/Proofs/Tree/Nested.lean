import SourceOutline.Proofs.Text.Boundary
import SourceOutline.Proofs.Tree.Path
import SourceOutline.Signature.Parameter

/-!
# Trees whose spans are nested

Where every child lies inside its parent and all offsets are boundaries, the text of
a node holds the texts of all the nodes below it.  Looking for a child, going down a
chain of declarators and listing parameters all end at nodes below the one they begin
at, so whatever they find has its text there.
-/

namespace SourceOutline
namespace Node

variable {source : Bytes} {root node inner : Node}

theorem mem_preorder_self (node : Node) : node ∈ node.preorder := by
  rw [preorder_eq]
  exact List.mem_cons_self

theorem mem_preorder_iff :
    inner ∈ node.preorder ↔ inner = node ∨ ∃ child ∈ node.children, inner ∈ child.preorder := by
  rw [preorder_eq, List.mem_cons, preorderAll_eq_flatMap, List.mem_flatMap]

theorem mem_preorder_of_mem_children (hinner : inner ∈ node.children) : inner ∈ node.preorder :=
  mem_preorder_iff.mpr (.inr ⟨inner, hinner, inner.mem_preorder_self⟩)

theorem mem_preorder_trans
    (hinner : inner ∈ node.preorder) (hnode : node ∈ root.preorder) : inner ∈ root.preorder := by
  induction root using childrenInduction with
  | step root ih =>
      rcases mem_preorder_iff.mp hnode with rfl | ⟨child, hchild, hbelow⟩
      · exact hinner
      · exact mem_preorder_iff.mpr (.inr ⟨child, hchild, ih child hchild hbelow⟩)

/-! ## What is found lies below -/

theorem mem_preorder_of_mem_namedChildren
    (hinner : inner ∈ node.namedChildren) : inner ∈ node.preorder :=
  mem_preorder_of_mem_children (List.mem_filter.mp hinner).1

theorem mem_preorder_of_child? {name : String} (hchild : node.child? name = some inner) :
    inner ∈ node.preorder :=
  mem_preorder_of_mem_children (List.mem_of_find?_eq_some hchild)

theorem mem_preorder_of_firstChild?
    {names : List String} (hchild : node.firstChild? names = some inner) :
    inner ∈ node.preorder := by
  obtain ⟨name, _, hname⟩ := List.exists_of_findSome?_eq_some hchild
  exact mem_preorder_of_child? hname

theorem innermost_mem_preorder (node : Node) : node.innermost ∈ node.preorder := by
  fun_induction innermost node with
  | case1 node inner hinner ih =>
      exact mem_preorder_trans ih (mem_preorder_of_firstChild? hinner)
  | case2 node hnone => exact node.mem_preorder_self

theorem mem_preorder_of_mem_parameterNodes
    (hinner : inner ∈ node.parameterNodes) : inner ∈ node.preorder := by
  fun_induction parameterNodes node with
  | case1 node list hlist hidentifier =>
      rw [List.mem_singleton.mp hinner]
      exact mem_preorder_of_child? hlist
  | case2 node list hlist hidentifier =>
      exact mem_preorder_trans (mem_preorder_of_mem_namedChildren hinner)
        (mem_preorder_of_child? hlist)
  | case3 node hlist single hsingle =>
      rw [List.mem_singleton.mp hinner]
      exact mem_preorder_of_child? hsingle
  | case4 node hlist hsingle declarator hdeclarator ih =>
      exact mem_preorder_trans (ih hinner) (mem_preorder_of_child? hdeclarator)
  | case5 node hlist hsingle hdeclarator => contradiction

/-! ## Nested spans -/

/-- Every offset of a tree is a boundary, and every child lies inside its parent. -/
structure Nested (source : Bytes) (root : Node) : Prop where
  boundaries : ∀ node ∈ root.preorder, source.Boundary node.start ∧ source.Boundary node.stop
  inside : ∀ node ∈ root.preorder, ∀ child ∈ node.children,
    node.start ≤ child.start ∧ child.start ≤ child.stop ∧ child.stop ≤ node.stop

instance (source : Bytes) : DecidablePred (Nested source) := fun root =>
  decidable_of_iff
    ((∀ node ∈ root.preorder, source.Boundary node.start ∧ source.Boundary node.stop) ∧
      ∀ node ∈ root.preorder, ∀ child ∈ node.children,
        node.start ≤ child.start ∧ child.start ≤ child.stop ∧ child.stop ≤ node.stop)
    ⟨fun h => ⟨h.1, h.2⟩, fun h => ⟨h.boundaries, h.inside⟩⟩

theorem Nested.of_mem (hroot : root.Nested source) (hnode : node ∈ root.preorder) :
    node.Nested source where
  boundaries inner hinner := hroot.boundaries inner (mem_preorder_trans hinner hnode)
  inside inner hinner := hroot.inside inner (mem_preorder_trans hinner hnode)

theorem Nested.text_within_of_mem_children
    (hnode : node.Nested source) (hinner : inner ∈ node.children) :
    inner.text source <:+: node.text source := by
  obtain ⟨hstart, hspan, hstop⟩ := hnode.inside node node.mem_preorder_self inner hinner
  have hends := hnode.boundaries inner (mem_preorder_of_mem_children hinner)
  exact (hnode.boundaries node node.mem_preorder_self).1.textBetween_within hends.1 hends.2
    hstart hspan hstop

theorem Nested.text_within (hroot : root.Nested source) (hnode : node ∈ root.preorder) :
    node.text source <:+: root.text source := by
  induction root using childrenInduction with
  | step root ih =>
      rcases mem_preorder_iff.mp hnode with rfl | ⟨child, hchild, hbelow⟩
      · exact List.infix_rfl
      · have hinner := ih child hchild (hroot.of_mem (mem_preorder_of_mem_children hchild)) hbelow
        exact hinner.trans (hroot.text_within_of_mem_children hchild)

end Node
end SourceOutline
