import SourceOutline.Proofs.Declaration.Sites
import SourceOutline.Proofs.Tree.Path

/-!
# Where the walk stops

The walk is described a second time, without a list of nodes still to come.  It
stops at a node when no step of the path to the node leads from a class into its
body, and the node is a class, or declares a function and does not stand directly
in a member list.  The stops come in pre-order.

A turn of the walk takes the first pending node, stops there or not, and puts the
children that it enters in front of the others.  What a list of pending nodes
still gives is a concatenation, one part for each node, and a turn replaces the
part of its node by the node's own stop and the parts of the children entered.
The two descriptions agree because the paths into the children divide in the same
way.  The number of turns is counted likewise, so the walk is known to end and
when.
-/

namespace SourceOutline
namespace Vocabulary

/-! ## One turn -/

def stop? (vocabulary : Vocabulary) (parent : Option String) (node : Node) : Option Visit :=
  match vocabulary.classify node with
  | .classLike => some (.classLike node)
  | shape =>
      if vocabulary.inMemberList parent then none
      else (shape.signature? node).map (Visit.function node)

def entered (vocabulary : Vocabulary) (node : Node) : List Node :=
  match vocabulary.classify node with
  | .classLike => node.childrenBut vocabulary.classBodyField
  | _ => node.children

/-- One turn of the walk: the stops it makes and the nodes then still to come. -/
def turn (vocabulary : Vocabulary) : List Pending → List Visit × List Pending
  | [] => ([], [])
  | ⟨parent, node⟩ :: rest =>
      ((vocabulary.stop? parent node).toList,
        Pending.below node (vocabulary.entered node) ++ rest)

def turns (vocabulary : Vocabulary) : Nat → List Pending → List Visit × List Pending
  | 0, pending => ([], pending)
  | count + 1, pending =>
      let first := vocabulary.turn pending
      let others := vocabulary.turns count first.2
      (first.1 ++ others.1, others.2)

variable {vocabulary : Vocabulary}

theorem entered_sublist_children (vocabulary : Vocabulary) (node : Node) :
    (vocabulary.entered node).Sublist node.children := by
  unfold entered
  split
  · exact List.eraseP_sublist
  · exact .refl _

theorem stop?_node
    {parent : Option String} {node : Node} {visit : Visit}
    (hstop : vocabulary.stop? parent node = some visit) : visit.node = node := by
  unfold stop? at hstop
  split at hstop
  · simp only [Option.some.injEq] at hstop
    rw [← hstop]
    rfl
  · split at hstop
    · contradiction
    · obtain ⟨signature, _, rfl⟩ := Option.map_eq_some_iff.mp hstop
      rfl

/-- One turn of the walk: a node is a stop or not, and the nodes it lets in come next. -/
theorem visitsFrom_cons
    (vocabulary : Vocabulary) (parent : Option String) (node : Node) (rest : List Pending) :
    vocabulary.visitsFrom (⟨parent, node⟩ :: rest) =
      (vocabulary.stop? parent node).toList ++
        vocabulary.visitsFrom (Pending.below node (vocabulary.entered node) ++ rest) := by
  rw [visitsFrom]
  unfold stop? entered
  cases vocabulary.classify node with
  | classLike => rfl
  | function | binding | exported | typeAlias | property | unrecognized =>
      by_cases hmember : vocabulary.inMemberList parent <;>
        simp [Shape.signature?, hmember]

/-- Induction on the turns of the walk. -/
theorem turnInduction
    (vocabulary : Vocabulary) {motive : List Pending → Prop} (nil : motive [])
    (turn : ∀ parent node rest,
      motive (Pending.below node (vocabulary.entered node) ++ rest) →
        motive (⟨parent, node⟩ :: rest))
    (pending : List Pending) : motive pending :=
  match pending with
  | [] => nil
  | ⟨parent, node⟩ :: rest =>
      turn parent node rest
        (turnInduction vocabulary nil turn
          (Pending.below node (vocabulary.entered node) ++ rest))
termination_by Pending.size pending
decreasing_by
  have hentered := Node.sizes_le_of_sublist (vocabulary.entered_sublist_children node)
  have hsize := node.size_eq
  simp only [Pending.size_below_append, Pending.size_cons]
  omega

/-- The walk passes nodes in document order and none twice. -/
theorem visitsFrom_sublist (vocabulary : Vocabulary) (pending : List Pending) :
    ((vocabulary.visitsFrom pending).map Visit.node).Sublist
      (Node.preorderAll (pending.map Pending.node)) := by
  induction pending using vocabulary.turnInduction with
  | nil => simp [visitsFrom]
  | turn parent node rest ih =>
      have hbelow :
          (Pending.below node (vocabulary.entered node)).map Pending.node =
            vocabulary.entered node := by
        simp [Pending.below, Function.comp_def]
      have hchildren :=
        Node.preorderAll_sublist (vocabulary.entered_sublist_children node)
      rw [List.map_append, hbelow, Node.preorderAll_append] at ih
      have hothers := ih.trans (hchildren.append_right _)
      rw [visitsFrom_cons, List.map_append, List.map_cons, Node.preorderAll_cons,
        Node.preorder_eq, List.cons_append]
      cases hstop : vocabulary.stop? parent node with
      | none => exact hothers.cons node
      | some visit =>
          simp only [Option.toList_some, List.map_cons, List.map_nil, List.cons_append,
            List.nil_append, stop?_node hstop]
          exact hothers.cons_cons node

/-! ## Paths that stay out of class bodies -/

/-- Whether a step leads from a class to its body, which is the first child under
the body field. -/
def entersBody (vocabulary : Vocabulary) (edge : Node.Edge) : Bool :=
  match vocabulary.classify edge.parent with
  | .classLike =>
      edge.parent.children.findIdx? (Node.hasField vocabulary.classBodyField) == some edge.index
  | _ => false

def outsideBodies (vocabulary : Vocabulary) (root : Node) (path : List Nat) : Bool :=
  (root.edges path).all fun edge => !vocabulary.entersBody edge

/-- The kind of the node from which the last step of a path starts. -/
def parentKind? (root : Node) (path : List Nat) : Option String :=
  (root.edges path).getLast?.map fun edge => edge.parent.kind

/-- The stop that belongs to the node at the end of a path. -/
def stopAt? (vocabulary : Vocabulary) (root : Node) (path : List Nat) : Option Visit :=
  if vocabulary.outsideBodies root path then
    (root.at? path).bind (vocabulary.stop? (parentKind? root path))
  else none

theorem outsideBodies_cons
    {node child : Node} {index : Nat} (hchild : node.children[index]? = some child)
    (rest : List Nat) :
    vocabulary.outsideBodies node (index :: rest) =
      (!vocabulary.entersBody ⟨node, index⟩ && vocabulary.outsideBodies child rest) := by
  simp [outsideBodies, Node.edges_cons hchild]

theorem parentKind?_cons
    {node child : Node} {index : Nat} (hchild : node.children[index]? = some child)
    (rest : List Nat) :
    parentKind? node (index :: rest) = some ((parentKind? child rest).getD node.kind) := by
  simp only [parentKind?, Node.edges_cons hchild, List.getLast?_cons]
  cases (child.edges rest).getLast? <;> rfl

/-- The same for a tree that hangs below a node of the given kind. -/
def stopBelow? (vocabulary : Vocabulary) (parent : Option String) (node : Node)
    (path : List Nat) : Option Visit :=
  if vocabulary.outsideBodies node path then
    (node.at? path).bind (vocabulary.stop? ((parentKind? node path).or parent))
  else none

theorem stopBelow?_none (root : Node) (path : List Nat) :
    vocabulary.stopBelow? none root path = vocabulary.stopAt? root path := by
  simp [stopBelow?, stopAt?]

theorem stopBelow?_nil (parent : Option String) (node : Node) :
    vocabulary.stopBelow? parent node [] = vocabulary.stop? parent node := by
  simp [stopBelow?, outsideBodies, parentKind?]

theorem stopBelow?_cons
    (parent : Option String) {node child : Node} {index : Nat}
    (hchild : node.children[index]? = some child) (rest : List Nat) :
    vocabulary.stopBelow? parent node (index :: rest) =
      if vocabulary.entersBody ⟨node, index⟩ then none
      else vocabulary.stopBelow? (some node.kind) child rest := by
  have hparent :
      (parentKind? node (index :: rest)).or parent =
        (parentKind? child rest).or (some node.kind) := by
    rw [parentKind?_cons hchild]
    cases parentKind? child rest <;> rfl
  unfold stopBelow?
  rw [outsideBodies_cons hchild, hparent, Node.at?_cons, hchild, Option.bind_some]
  cases vocabulary.entersBody ⟨node, index⟩ <;> simp

/-! ## The paths into the children entered -/

section

variable {α : Type} (results : Node → List Nat → Option α) (atPath : List Nat → Option α)

/-- Leaving out the paths into the first sibling with a property is leaving out
that sibling. -/
theorem filterMap_pathsFrom_eraseP
    (p : Node → Bool) (index : Nat) {nodes : List Node}
    (hpaths : ∀ offset child rest, nodes[offset]? = some child →
      atPath ((index + offset) :: rest) =
        if nodes.findIdx? p = some offset then none else results child rest) :
    (Node.pathsFrom index nodes).filterMap atPath =
      (nodes.eraseP p).flatMap fun child => child.paths.filterMap (results child) := by
  induction nodes generalizing index with
  | nil => simp
  | cons first nodes ih =>
      rw [Node.pathsFrom_cons, List.filterMap_append, List.filterMap_map]
      cases hfirst : p first with
      | true =>
          have hleftOut :
              first.paths.filterMap (atPath ∘ (index :: ·)) = [] := by
            rw [List.filterMap_eq_nil_iff]
            intro rest _
            simpa [List.findIdx?_cons, hfirst] using hpaths 0 first rest rfl
          -- Only the first one is left out, so all the siblings behind it are kept.
          have hothers :=
            Node.filterMap_pathsFrom results atPath (index + 1)
              fun offset child rest (hchild : nodes[offset]? = some child) => by
                have hrest := hpaths (offset + 1) child rest hchild
                rw [Nat.add_right_comm, Nat.add_assoc]
                simpa [List.findIdx?_cons, hfirst] using hrest
          rw [hleftOut, hothers, List.eraseP_cons_of_pos hfirst, List.nil_append]
      | false =>
          have hkept :
              first.paths.filterMap (atPath ∘ (index :: ·)) =
                first.paths.filterMap (results first) := by
            apply List.filterMap_congr
            intro rest _
            simpa [List.findIdx?_cons, hfirst] using hpaths 0 first rest rfl
          have hothers := ih (index + 1) fun offset child rest hchild => by
            have hrest := hpaths (offset + 1) child rest hchild
            rw [Nat.add_right_comm, Nat.add_assoc]
            simpa [List.findIdx?_cons, hfirst] using hrest
          rw [hkept, hothers, List.eraseP_cons_of_neg (by simp [hfirst]), List.flatMap_cons]

/-- What is found along the paths of a tree is found at its root or along the
paths of the children entered, if nothing is found along a step into a body. -/
theorem filterMap_paths
    (vocabulary : Vocabulary) (node : Node)
    (hpaths : ∀ index child rest, node.children[index]? = some child →
      atPath (index :: rest) =
        if vocabulary.entersBody ⟨node, index⟩ then none else results child rest) :
    node.paths.filterMap atPath =
      (atPath []).toList ++
        (vocabulary.entered node).flatMap fun child => child.paths.filterMap (results child) := by
  have hroot :
      node.paths.filterMap atPath =
        (atPath []).toList ++ (Node.pathsFrom 0 node.children).filterMap atPath := by
    rw [Node.paths_eq, List.filterMap_cons]
    cases atPath [] <;> rfl
  rw [hroot]
  congr 1
  unfold entered
  split
  next hclass =>
    apply filterMap_pathsFrom_eraseP
    intro index child rest hchild
    simpa [entersBody, hclass] using hpaths index child rest hchild
  next hclass =>
    apply Node.filterMap_pathsFrom
    intro index child rest hchild
    have hstays : vocabulary.entersBody ⟨node, index⟩ = false := by
      unfold entersBody
      split
      · contradiction
      · rfl
    simpa [hstays] using hpaths index child rest hchild

end

/-! ## The whole walk -/

/-- The stops of the walk are those that paths outside of bodies lead to. -/
theorem visitsFrom_eq_flatMap (vocabulary : Vocabulary) (pending : List Pending) :
    vocabulary.visitsFrom pending =
      pending.flatMap fun entry =>
        entry.node.paths.filterMap (vocabulary.stopBelow? entry.parent entry.node) := by
  induction pending using vocabulary.turnInduction with
  | nil => simp [visitsFrom]
  | turn parent node rest ih =>
      -- The part of the node divides into its own stop and the parts of the children
      -- entered, which are the parts in front once the turn is over.
      have hnode :=
        filterMap_paths (vocabulary.stopBelow? (some node.kind))
          (vocabulary.stopBelow? parent node) vocabulary node fun index child rest hchild =>
            stopBelow?_cons parent hchild rest
      rw [stopBelow?_nil] at hnode
      rw [visitsFrom_cons, ih, List.flatMap_append, List.flatMap_cons, hnode, List.append_assoc,
        Pending.below, List.flatMap_map]

/-- How many nodes below a node, itself included, the walk comes to. -/
def reach (vocabulary : Vocabulary) (node : Node) : Nat :=
  node.paths.countP (vocabulary.outsideBodies node)

def reachAll (vocabulary : Vocabulary) (pending : List Pending) : Nat :=
  total (pending.map fun entry => vocabulary.reach entry.node)

theorem reach_eq (vocabulary : Vocabulary) (node : Node) :
    vocabulary.reach node = 1 + total ((vocabulary.entered node).map vocabulary.reach) := by
  -- Counting is listing without looking at what is listed.
  have hcount : ∀ tree : Node,
      (tree.paths.filterMap fun path =>
        if vocabulary.outsideBodies tree path then some () else none).length =
          vocabulary.reach tree := by
    intro tree
    rw [List.length_filterMap_eq_countP]
    unfold reach
    congr 1
    funext path
    cases vocabulary.outsideBodies tree path <;> rfl
  have htotal : ∀ nodes : List Node,
      (nodes.flatMap fun child => child.paths.filterMap fun path =>
        if vocabulary.outsideBodies child path then some () else none).length =
          total (nodes.map vocabulary.reach) := by
    intro nodes
    induction nodes with
    | nil => rfl
    | cons first nodes ih =>
        rw [List.flatMap_cons, List.length_append, hcount, ih, List.map_cons, total_cons]
  have hnode :=
    filterMap_paths
      (fun child path => if vocabulary.outsideBodies child path then some () else none)
      (fun path => if vocabulary.outsideBodies node path then some () else none)
      vocabulary node fun index child rest hchild => by
        rw [outsideBodies_cons hchild]
        cases vocabulary.entersBody ⟨node, index⟩ <;> simp
  rw [← hcount, hnode, List.length_append, htotal]
  simp [outsideBodies]

/-- Each turn uses up one of the nodes that the pending ones reach. -/
theorem reachAll_turn (vocabulary : Vocabulary) (entry : Pending) (rest : List Pending) :
    vocabulary.reachAll (entry :: rest) =
      vocabulary.reachAll (vocabulary.turn (entry :: rest)).2 + 1 := by
  have hbelow :
      (Pending.below entry.node (vocabulary.entered entry.node)).map
          (fun entry => vocabulary.reach entry.node) =
        (vocabulary.entered entry.node).map vocabulary.reach := by
    simp [Pending.below, Function.comp_def]
  unfold reachAll turn
  rw [List.map_cons, total_cons, List.map_append, total_append, hbelow, vocabulary.reach_eq]
  omega

/-- The walk is over after exactly as many turns as there are nodes for it to come
to, and from then on it has made all its stops. -/
theorem turns_eq (vocabulary : Vocabulary) (count : Nat) (pending : List Pending) :
    ((vocabulary.turns count pending).2 = [] ↔ vocabulary.reachAll pending ≤ count) ∧
      (vocabulary.reachAll pending ≤ count →
        (vocabulary.turns count pending).1 = vocabulary.visitsFrom pending) := by
  induction count generalizing pending with
  | zero =>
      cases pending with
      | nil => simp [turns, reachAll, visitsFrom]
      | cons entry rest =>
          have hone := vocabulary.reachAll_turn entry rest
          simp [turns, hone]
  | succ count ih =>
      cases pending with
      | nil =>
          have hnone := ih []
          simp_all [turns, turn, reachAll, visitsFrom]
      | cons entry rest =>
          obtain ⟨hover, hstops⟩ := ih (vocabulary.turn (entry :: rest)).2
          have hone := vocabulary.reachAll_turn entry rest
          simp only [turns, hone, Nat.add_le_add_iff_right]
          refine ⟨hover, ?_⟩
          intro hcount
          rw [hstops hcount, visitsFrom_cons]
          rfl

/-- The stops of the walk are exactly those of the nodes whose path stays out of
class bodies, in pre-order, and none is made twice: the paths of a tree are all
those that do not leave it, in strictly increasing order.  The walk ends after one
turn for each node that it comes to. -/
theorem visits_exact (vocabulary : Vocabulary) (root : Node) :
    vocabulary.visits root = root.paths.filterMap (vocabulary.stopAt? root) ∧
      (∀ path, path ∈ root.paths ↔ (root.at? path).isSome) ∧
      root.paths.Pairwise (· < ·) ∧
      ((vocabulary.visits root).map Visit.node).Sublist root.preorder ∧
      (∀ count,
        (vocabulary.turns count [⟨none, root⟩]).2 = [] ↔
          root.paths.countP (vocabulary.outsideBodies root) ≤ count) ∧
      ∀ extra,
        vocabulary.turns (root.paths.countP (vocabulary.outsideBodies root) + extra)
          [⟨none, root⟩] = (vocabulary.visits root, []) := by
  have hreach :
      vocabulary.reachAll [⟨none, root⟩] =
        root.paths.countP (vocabulary.outsideBodies root) := by
    simp [reachAll, reach]
  refine ⟨?_, root.mem_paths_iff, root.paths_increasing, ?_, ?_, ?_⟩
  · unfold visits
    rw [visitsFrom_eq_flatMap]
    simp [stopBelow?_none]
  · simpa [visits] using vocabulary.visitsFrom_sublist [⟨none, root⟩]
  · intro count
    rw [← hreach]
    exact (vocabulary.turns_eq count [⟨none, root⟩]).1
  · intro extra
    rw [← hreach]
    have hend := vocabulary.turns_eq (vocabulary.reachAll [⟨none, root⟩] + extra) [⟨none, root⟩]
    have henough := Nat.le_add_right (vocabulary.reachAll [⟨none, root⟩]) extra
    exact Prod.ext (hend.2 henough) (hend.1.mpr henough)

end Vocabulary
end SourceOutline
