import SourceOutline.Language.Pack
import SourceOutline.Proofs.Declaration.Sites
import SourceOutline.Proofs.Tree.Preorder

/-!
# One node makes at most one record

Functions and classes are found by the walk over a tree, methods by a second walk
that begins in the body of a class.  The first walk leaves that body out, so the
nodes that the two walks come to are different nodes.  This is said with
listings: all the nodes behind the stops of a walk, members included, are among
the nodes listed by the trees still to come, none more often than it is listed.

For the members the statement is stronger, since they come out in the order in
which they stand: they are a sublist of the listing.  At a class the children are
divided into the body and the others; the members lie in the body, and the walk
goes on with the others.
-/

namespace SourceOutline
namespace Vocabulary

/-! ## Members -/

theorem member?_node
    {vocabulary : Vocabulary} {node : Node} {member : Member}
    (hmember : vocabulary.member? node = some member) : member.node = node := by
  unfold member? at hmember
  split at hmember
  · simp only [Option.some.injEq] at hmember
    rw [← hmember]
  · split at hmember
    · split at hmember
      · simp only [Option.some.injEq] at hmember
        rw [← hmember]
      · contradiction
    · split at hmember
      · obtain ⟨value, _, rfl⟩ := Option.map_eq_some_iff.mp hmember
        rfl
      · contradiction

theorem unwrapped_sublist_children (node : Node) (unwrap : Unwrap) :
    (unwrapped node unwrap).Sublist node.children := by
  cases unwrap with
  | flatten => exact List.filter_sublist
  | field name =>
      cases hchild : node.child? name with
      | none => simp [unwrapped, hchild]
      | some child =>
          simpa [unwrapped, hchild] using Node.child?_sublist_children hchild

/-- The member walk passes nodes in document order and none twice. -/
theorem membersFrom_sublist (vocabulary : Vocabulary) (pending : List Node) :
    ((vocabulary.membersFrom pending).map Member.node).Sublist (Node.preorderAll pending) := by
  fun_induction membersFrom vocabulary pending with
  | case1 => simp
  | case2 node rest unwrap hwrapper ih =>
      have hinside :
          (Node.preorderAll (unwrapped node unwrap)).Sublist node.preorder :=
        Node.preorderAll_sublist_preorder (unwrapped_sublist_children node unwrap)
      rw [Node.preorderAll_append] at ih
      rw [Node.preorderAll_cons]
      exact ih.trans (hinside.append_right _)
  | case3 node rest hwrapper member hmember ih =>
      rw [Node.preorderAll_cons, Node.preorder_eq, List.map_cons, member?_node hmember]
      exact (ih.trans (List.sublist_append_right _ _)).cons_cons node
  | case4 node rest hwrapper hmember ih =>
      rw [Node.preorderAll_cons]
      exact ih.trans (List.sublist_append_right _ _)

theorem members_sublist_body
    {vocabulary : Vocabulary} {node body : Node}
    (hbody : node.child? vocabulary.classBodyField = some body) :
    ((vocabulary.members node).map Member.node).Sublist body.preorder := by
  unfold members
  rw [hbody]
  exact (vocabulary.membersFrom_sublist body.namedChildren).trans
    (Node.preorderAll_sublist_preorder List.filter_sublist)

/-- The members of a class and the nodes that the walk goes on with are all
listed below the class, each once. -/
theorem members_append_subperm (vocabulary : Vocabulary) (node : Node) :
    ((vocabulary.members node).map Member.node ++
        Node.preorderAll (node.childrenBut vocabulary.classBodyField)).Subperm
      (Node.preorderAll node.children) := by
  cases hbody : node.child? vocabulary.classBodyField with
  | none =>
      have hmembers : vocabulary.members node = [] := by
        unfold members
        rw [hbody]
      rw [hmembers]
      exact (Node.preorderAll_sublist List.eraseP_sublist).subperm
  | some body =>
      have hchildren :=
        Node.preorderAll_perm (Node.children_perm_of_child? hbody)
      rw [Node.preorderAll_cons] at hchildren
      have hmembers := (members_sublist_body hbody).append_right
        (Node.preorderAll (node.childrenBut vocabulary.classBodyField))
      exact hmembers.subperm.trans hchildren.symm.subperm

/-! ## Stops -/

/-- The nodes from which a stop may make records: its own, and for a class those
of its members. -/
def nodesAt (vocabulary : Vocabulary) : Visit → List Node
  | .function node _ => [node]
  | .classLike node => node :: (vocabulary.members node).map Member.node

/-- Replacing a node by some of its children makes no node come twice. -/
theorem subperm_of_children
    {nodes : List Node} {node : Node} {rest : List Pending}
    (hnodes : nodes.Subperm
      (Node.preorderAll ((Pending.below node node.children ++ rest).map Pending.node))) :
    (node :: nodes).Subperm (Node.preorderAll (node :: rest.map Pending.node)) := by
  rw [Node.preorderAll_cons, Node.preorder_eq, List.cons_append, List.subperm_cons]
  simpa [Pending.below, Function.comp_def] using hnodes

/-- The nodes behind the stops of a walk are listed by the nodes still to come,
none more often than it is listed. -/
theorem visitsFrom_subperm (vocabulary : Vocabulary) (pending : List Pending) :
    ((vocabulary.visitsFrom pending).flatMap vocabulary.nodesAt).Subperm
      (Node.preorderAll (pending.map Pending.node)) := by
  fun_induction visitsFrom vocabulary pending with
  | case1 => simp
  | case2 parent node rest hclass ih =>
      have hbelow :
          (Pending.below node (node.childrenBut vocabulary.classBodyField) ++ rest).map
              Pending.node =
            node.childrenBut vocabulary.classBodyField ++ rest.map Pending.node := by
        simp [Pending.below, Function.comp_def]
      rw [hbelow, Node.preorderAll_append] at ih
      rw [List.flatMap_cons, List.map_cons, Node.preorderAll_cons, Node.preorder_eq]
      simp only [nodesAt, List.cons_append, List.subperm_cons]
      have hgoOn := (List.subperm_append_left
        ((vocabulary.members node).map Member.node)).mpr ih
      rw [← List.append_assoc] at hgoOn
      exact hgoOn.trans ((List.subperm_append_right _).mpr
        (vocabulary.members_append_subperm node))
  | case3 parent node rest hshape signature hsignature hmember ih =>
      exact ((List.sublist_cons_self _ _).subperm).trans (subperm_of_children ih)
  | case4 parent node rest hshape signature hsignature hmember ih =>
      exact subperm_of_children ih
  | case5 parent node rest hshape hsignature ih =>
      exact ((List.sublist_cons_self _ _).subperm).trans (subperm_of_children ih)

/-- The stops of the walk and the members of its classes are different nodes. -/
theorem visits_subperm (vocabulary : Vocabulary) (root : Node) :
    ((vocabulary.visits root).flatMap vocabulary.nodesAt).Subperm root.preorder := by
  have hwalk := vocabulary.visitsFrom_subperm [⟨none, root⟩]
  simpa [visits] using hwalk

end Vocabulary

namespace SourceUnit

/-- The nodes behind the records of a unit: those of its functions, those of its
classes, and those of the methods of each class. -/
def declarationNodes (unit : SourceUnit) : List Node :=
  unit.functionSites.map Member.node ++ unit.classSites ++
    unit.classSites.flatMap fun node => (unit.methodSites node).map Member.node

theorem methodSites_sublist (unit : SourceUnit) (node : Node) :
    ((unit.methodSites node).map Member.node).Sublist
      ((unit.vocabulary.members node).map Member.node) :=
  List.filter_sublist.map Member.node

theorem grouped_subperm (unit : SourceUnit) (visits : List Visit) :
    ((visits.filterMap Visit.function?).map Member.node ++ visits.filterMap Visit.class? ++
        (visits.filterMap Visit.class?).flatMap fun node =>
          (unit.methodSites node).map Member.node).Subperm
      (visits.flatMap unit.vocabulary.nodesAt) := by
  induction visits with
  | nil => simp
  | cons visit rest ih =>
      cases visit with
      | function node signature =>
          simpa [List.filterMap_cons, Visit.function?, Visit.class?, Vocabulary.nodesAt,
            List.subperm_cons] using ih
      | classLike node =>
          let methods := (unit.methodSites node).map Member.node
          let functions := (rest.filterMap Visit.function?).map Member.node
          let classes := rest.filterMap Visit.class?
          let others := classes.flatMap fun node => (unit.methodSites node).map Member.node
          have hclass :
              (functions ++ node :: classes ++ (methods ++ others)).Perm
                (node :: (functions ++ classes) ++ (methods ++ others)) :=
            List.perm_middle.append_right _
          have hmembers :
              (functions ++ classes ++ (methods ++ others)).Perm
                (methods ++ (functions ++ classes ++ others)) :=
            List.perm_append_comm_assoc _ _ _
          have hmethods :
              (node :: methods).Subperm (unit.vocabulary.nodesAt (.classLike node)) :=
            ((unit.methodSites_sublist node).cons_cons node).subperm
          have hgrouped :=
            (hclass.trans (hmembers.cons node)).subperm.trans (hmethods.append ih)
          simpa [List.filterMap_cons, Visit.function?, Visit.class?] using hgrouped

theorem declarationNodes_subperm (unit : SourceUnit) :
    unit.declarationNodes.Subperm unit.root.preorder := by
  have hnamed :
      (unit.sites.flatMap unit.vocabulary.nodesAt).Sublist
        ((unit.vocabulary.visits unit.root).flatMap unit.vocabulary.nodesAt) :=
    List.filter_sublist.flatMap _
  exact (unit.grouped_subperm unit.sites).trans
    (hnamed.subperm.trans (unit.vocabulary.visits_subperm unit.root))

/-- One node never makes two records.  The nodes behind the functions, the classes
and the methods of a unit belong to them one by one and in order, and none of them
is taken more often than it stands in the tree.  As nodes are told apart by their
places, this says that no two of them are the same. -/
theorem declarationNodes_distinct (unit : SourceUnit) (id : Int) :
    List.Forall₂ unit.RecordsFunction unit.functionSites (unit.assemble id).functions ∧
      List.Forall₂ unit.RecordsClass unit.classSites (unit.assemble id).classes ∧
      unit.declarationNodes.Subperm unit.root.preorder ∧
      (unit.root.DistinctPlaces → (unit.declarationNodes.map Node.place).Nodup) := by
  refine ⟨unit.functions_records id, unit.classes_records id,
    unit.declarationNodes_subperm, ?_⟩
  intro hplaces
  obtain ⟨listed, hperm, hsublist⟩ := unit.declarationNodes_subperm
  have hlisted : (listed.map Node.place).Nodup := (hsublist.map Node.place).nodup hplaces
  exact (hperm.map Node.place).nodup_iff.mp hlisted

def nestedRows : List TreeRow :=
  [⟨0, "module", 0, 9, true, none⟩,
    ⟨1, "class_definition", 0, 7, true, none⟩,
    ⟨2, "identifier", 0, 1, true, some "name"⟩,
    ⟨2, "block", 2, 7, true, some "body"⟩,
    ⟨3, "decorated_definition", 2, 3, true, none⟩,
    ⟨4, "function_definition", 2, 3, true, some "definition"⟩,
    ⟨5, "identifier", 2, 3, true, some "name"⟩,
    ⟨3, "class_definition", 4, 7, true, none⟩,
    ⟨4, "identifier", 4, 5, true, some "name"⟩,
    ⟨4, "block", 6, 7, true, some "body"⟩,
    ⟨5, "function_definition", 6, 7, true, none⟩,
    ⟨6, "identifier", 6, 7, true, some "name"⟩,
    ⟨1, "function_definition", 8, 9, true, none⟩,
    ⟨2, "identifier", 8, 9, true, some "name"⟩]

def nestedUnit (root : Node) : SourceUnit :=
  .ofSource (ascii "A f B g h") root Pack.python.comments Pack.python.vocabulary 9

theorem declarationNodes_distinct_nested :
    ∃ root, Node.ofRows? nestedRows = some root ∧ root.DistinctPlaces ∧
      (nestedUnit root).declarationNodes.map Node.place = [12, 1, 5] ∧
      ((nestedUnit root).declarationNodes.map Node.place).Nodup := by
  have hread :
      (Node.ofRows? nestedRows).map
          (fun root => (nestedUnit root).declarationNodes.map Node.place) =
        some [12, 1, 5] := by
    decide +kernel
  obtain ⟨root, hroot, hnodes⟩ := Option.map_eq_some_iff.mp hread
  have hplaces := Node.distinctPlaces_ofRows? hroot
  exact ⟨root, hroot, hplaces, hnodes,
    (declarationNodes_distinct (nestedUnit root) 1).2.2.2 hplaces⟩

end SourceUnit
end SourceOutline
