import SourceOutline.Proofs.Tree.Preorder

/-!
# Paths in a tree

A path says at each node which child to go to, so it tells apart nodes that look
the same.  The paths of a tree are listed in pre-order, which is their
lexicographic order: a node comes before everything below it, and what lies below
a child comes before the children to the right.  The list is strictly increasing
and holds every path that does not leave the tree; these two facts determine it.
-/

namespace SourceOutline
namespace Node

/-- Induction on trees through the lists of children. -/
theorem childrenInduction
    {motive : Node → Prop}
    (step : ∀ node, (∀ child ∈ node.children, motive child) → motive node) (node : Node) :
    motive node := by
  refine step node ?_
  intro child hchild
  exact childrenInduction step child
termination_by node.size
decreasing_by exact size_lt_of_mem_children hchild

def at? (node : Node) : List Nat → Option Node
  | [] => some node
  | index :: rest => node.children[index]?.bind fun child => child.at? rest

@[simp] theorem at?_nil (node : Node) : node.at? [] = some node := rfl

@[simp] theorem at?_cons (node : Node) (index : Nat) (rest : List Nat) :
    node.at? (index :: rest) = node.children[index]?.bind fun child => child.at? rest := rfl

/-- One step of a path: the node it starts from and which child it goes to. -/
structure Edge where
  parent : Node
  index : Nat

def edges (node : Node) : List Nat → List Edge
  | [] => []
  | index :: rest =>
      ⟨node, index⟩ :: node.children[index]?.elim [] fun child => child.edges rest

@[simp] theorem edges_nil (node : Node) : node.edges [] = [] := rfl

theorem edges_cons
    {node child : Node} {index : Nat} (hchild : node.children[index]? = some child)
    (rest : List Nat) :
    node.edges (index :: rest) = ⟨node, index⟩ :: child.edges rest := by
  simp [edges, hchild]

mutual
def paths : Node → List (List Nat)
  | mk _ children => [] :: pathsFrom 0 children

/-- The paths into siblings, the first of which is the child at `index`. -/
def pathsFrom (index : Nat) : List Node → List (List Nat)
  | [] => []
  | node :: rest => node.paths.map (index :: ·) ++ pathsFrom (index + 1) rest
end

theorem paths_eq (node : Node) : node.paths = [] :: pathsFrom 0 node.children := by
  cases node
  rw [paths]
  rfl

@[simp] theorem pathsFrom_nil (index : Nat) : pathsFrom index [] = [] := by
  rw [pathsFrom]

@[simp] theorem pathsFrom_cons (index : Nat) (node : Node) (rest : List Node) :
    pathsFrom index (node :: rest) =
      node.paths.map (index :: ·) ++ pathsFrom (index + 1) rest := by
  rw [pathsFrom]

/-- A path begins with the place of a child and goes on below it. -/
theorem mem_pathsFrom {index : Nat} {nodes : List Node} {path : List Nat} :
    path ∈ pathsFrom index nodes ↔
      ∃ offset node rest, nodes[offset]? = some node ∧ path = (index + offset) :: rest ∧
        rest ∈ node.paths := by
  induction nodes generalizing index with
  | nil => simp
  | cons first nodes ih =>
      rw [pathsFrom_cons, List.mem_append, List.mem_map, ih]
      constructor
      · rintro (⟨rest, hrest, rfl⟩ | ⟨offset, node, rest, hnode, rfl, hrest⟩)
        · exact ⟨0, first, rest, rfl, rfl, hrest⟩
        · refine ⟨offset + 1, node, rest, hnode, ?_, hrest⟩
          rw [Nat.add_right_comm, Nat.add_assoc]
      · rintro ⟨offset, node, rest, hnode, rfl, hrest⟩
        cases offset with
        | zero =>
            simp only [List.getElem?_cons_zero, Option.some.injEq] at hnode
            subst hnode
            exact .inl ⟨rest, hrest, rfl⟩
        | succ offset =>
            refine .inr ⟨offset, node, rest, hnode, ?_, hrest⟩
            rw [Nat.add_right_comm, Nat.add_assoc]

theorem mem_paths_iff (node : Node) (path : List Nat) :
    path ∈ node.paths ↔ (node.at? path).isSome := by
  induction node using childrenInduction generalizing path with
  | step node ih =>
      rw [paths_eq]
      cases path with
      | nil => simp
      | cons index rest =>
          simp only [List.mem_cons, reduceCtorEq, false_or, mem_pathsFrom, Nat.zero_add,
            List.cons.injEq, at?_cons]
          cases hchild : node.children[index]? with
          | none =>
              simp only [Option.bind_none, Option.isSome_none, Bool.false_eq_true, iff_false]
              rintro ⟨offset, child, others, hoffset, ⟨rfl, rfl⟩, _⟩
              simp [hchild] at hoffset
          | some child =>
              have hinside := ih child (List.mem_of_getElem? hchild) rest
              rw [Option.bind_some, ← hinside]
              constructor
              · rintro ⟨offset, other, others, hoffset, ⟨rfl, rfl⟩, hothers⟩
                rw [hchild, Option.some.injEq] at hoffset
                rw [hoffset]
                exact hothers
              · intro hrest
                exact ⟨index, child, rest, hchild, ⟨rfl, rfl⟩, hrest⟩

theorem pathsFrom_increasing
    {nodes : List Node} (hnodes : ∀ node ∈ nodes, node.paths.Pairwise (· < ·)) (index : Nat) :
    (pathsFrom index nodes).Pairwise (· < ·) := by
  induction nodes generalizing index with
  | nil => simp
  | cons first nodes ih =>
      rw [pathsFrom_cons, List.pairwise_append]
      refine ⟨?_, ih (fun node hnode => hnodes node (List.mem_cons_of_mem first hnode)) _, ?_⟩
      · rw [List.pairwise_map]
        refine (hnodes first List.mem_cons_self).imp ?_
        intro front back hlt
        exact List.cons_lt_cons_iff.mpr (.inr ⟨rfl, hlt⟩)
      · -- The heads decide: those in front are all `index`, those behind all larger.
        intro front hfront back hback
        obtain ⟨rest, _, rfl⟩ := List.mem_map.mp hfront
        obtain ⟨offset, node, others, _, rfl, _⟩ := mem_pathsFrom.mp hback
        exact List.cons_lt_cons_iff.mpr (.inl (by omega))

theorem paths_increasing (node : Node) : node.paths.Pairwise (· < ·) := by
  induction node using childrenInduction with
  | step node ih =>
      rw [paths_eq, List.pairwise_cons]
      refine ⟨?_, pathsFrom_increasing ih 0⟩
      intro path hpath
      obtain ⟨offset, child, rest, _, rfl, _⟩ := mem_pathsFrom.mp hpath
      exact List.nil_lt_cons _ _

/-- What is found along the paths into siblings is found in one of them. -/
theorem filterMap_pathsFrom
    {α : Type} (results : Node → List Nat → Option α) (atPath : List Nat → Option α)
    (index : Nat) {nodes : List Node}
    (hpaths : ∀ offset child rest, nodes[offset]? = some child →
      atPath ((index + offset) :: rest) = results child rest) :
    (pathsFrom index nodes).filterMap atPath =
      nodes.flatMap fun child => child.paths.filterMap (results child) := by
  induction nodes generalizing index with
  | nil => simp
  | cons first nodes ih =>
      have hfirst :
          (first.paths.map (index :: ·)).filterMap atPath =
            first.paths.filterMap (results first) := by
        rw [List.filterMap_map]
        apply List.filterMap_congr
        intro rest _
        exact hpaths 0 first rest rfl
      have hothers := ih (index + 1) fun offset child rest hchild => by
        rw [Nat.add_right_comm, Nat.add_assoc]
        exact hpaths (offset + 1) child rest hchild
      rw [pathsFrom_cons, List.filterMap_append, List.flatMap_cons, hfirst, hothers]

end Node
end SourceOutline
