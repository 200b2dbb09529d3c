import SourceOutline.Number.Total
import SourceOutline.Proofs.Comment.Index

/-!
# The visit of comment nodes, move by move

The visit of comment nodes keeps no list of nodes still to come.  All it has is a cursor, and
whether the cursor has just come to a node or is on its way back from the tree under it.  What
is still to be found can be read off the cursor: on the way down it is what the forest of the
cursor lists, on the way back what lies behind the cursor.

Each move takes the visit one step nearer to its end.  It comes to a node once and goes back
from it once, and it comes to the nodes that lie below no comment node.  So the number of moves
is known beforehand: two for each of these nodes.
-/

namespace SourceOutline

/-! ## Kinds that speak of a comment -/

theorem Text.occurs_iff_infix {needle text : List Char} :
    Text.occurs needle text ↔ needle <:+: text := by
  induction text with
  | nil => simp [Text.occurs]
  | cons c rest ih =>
      rw [Text.occurs, Bool.or_eq_true, List.isPrefixOf_iff_prefix, ih, List.infix_cons_iff]

def Node.IsComment (node : Node) : Prop :=
  "comment".toList <:+: node.kind.toList

theorem Node.isComment_iff {node : Node} : isCommentKind node.kind ↔ node.IsComment :=
  Text.occurs_iff_infix

/-! ## Where a cursor stands -/

theorem Node.at?_concat (root : Node) (path : List Nat) (index : Nat) :
    root.at? (path ++ [index]) = (root.at? path).bind fun node => node.children[index]? := by
  induction path generalizing root with
  | nil => simp
  | cons first rest ih =>
      rw [List.cons_append, Node.at?_cons, Node.at?_cons, Option.bind_assoc]
      congr 1
      funext child
      exact ih child

namespace Cursor

/-- The cursor stands on the node at the end of a path, with the way back to the root. -/
inductive StandsAt (root : Node) : Cursor → List Nat → Prop
  | root : StandsAt root (ofRoot root) []
  | child {cursor : Cursor} {path : List Nat} {index : Nat} {node : Node} {right : List Node}
      (hparent : StandsAt root cursor path)
      (hchild : cursor.node.children.drop index = node :: right) :
      StandsAt root ⟨node, right, ⟨cursor.node, cursor.right⟩ :: cursor.above⟩ (path ++ [index])

namespace StandsAt

variable {root : Node} {cursor : Cursor} {path : List Nat}

theorem at? (hstands : StandsAt root cursor path) : root.at? path = some cursor.node := by
  induction hstands with
  | root => rfl
  | @child cursor path index node right _ hchild ih =>
      rw [Node.at?_concat, ih, Option.bind_some, ← List.head?_drop, hchild, List.head?_cons]

/-- From a node the cursor goes down to the first child, if there is one. -/
theorem firstChild? (hstands : StandsAt root cursor path) :
    match cursor.firstChild? with
    | some next => StandsAt root next (path ++ [0])
    | none => root.at? (path ++ [0]) = none := by
  rw [Node.at?_concat, hstands.at?, Option.bind_some]
  unfold Cursor.firstChild?
  cases hchildren : cursor.node.children with
  | nil => rfl
  | cons node right => exact .child hstands hchildren

theorem nextSibling? {index : Nat} (hstands : StandsAt root cursor (path ++ [index])) :
    match cursor.nextSibling? with
    | some next => StandsAt root next (path ++ [index + 1])
    | none => root.at? (path ++ [index + 1]) = none := by
  generalize hpath : path ++ [index] = whole at hstands
  cases hstands with
  | root => simp at hpath
  | @child cursor front place node right hparent hchild =>
      obtain ⟨rfl, rfl⟩ : path = front ∧ index = place := by simpa using hpath
      have hright : cursor.node.children.drop (index + 1) = right := by
        rw [← List.drop_drop, hchild]
        rfl
      rw [Node.at?_concat, hparent.at?, Option.bind_some, ← List.head?_drop, hright]
      cases right with
      | nil => rfl
      | cons sibling right => exact .child hparent hright

theorem parent? {index : Nat} (hstands : StandsAt root cursor (path ++ [index])) :
    ∃ next, cursor.parent? = some next ∧ StandsAt root next path := by
  generalize hpath : path ++ [index] = whole at hstands
  cases hstands with
  | root => simp at hpath
  | @child cursor front place node right hparent hchild =>
      obtain ⟨rfl, rfl⟩ : path = front ∧ index = place := by simpa using hpath
      exact ⟨cursor, rfl, hparent⟩

theorem eq_ofRoot (hstands : StandsAt root cursor []) : cursor = ofRoot root := by
  generalize hpath : ([] : List Nat) = whole at hstands
  cases hstands with
  | root => rfl
  | child => simp at hpath

end StandsAt
end Cursor

/-! ## Moves -/

inductive Phase where
  /-- The cursor has just come to a node. -/
  | enter
  /-- The cursor is on its way back from the tree under it. -/
  | climb
  | done
  deriving DecidableEq, Repr

structure CommentVisit where
  phase : Phase
  cursor : Cursor
  found : List Node

namespace CommentVisit

def start (root : Node) : CommentVisit :=
  { phase := .enter, cursor := .ofRoot root, found := [] }

def enter (visit : CommentVisit) : CommentVisit :=
  if isCommentKind visit.cursor.node.kind then
    { visit with phase := .climb, found := visit.found ++ [visit.cursor.node] }
  else
    match visit.cursor.firstChild? with
    | some child => { visit with cursor := child }
    | none => { visit with phase := .climb }

/-- What is done on the way back: the cursor goes on to the right if it can, and else up. -/
def climb (visit : CommentVisit) : CommentVisit :=
  match visit.cursor.nextSibling? with
  | some sibling => { visit with phase := .enter, cursor := sibling }
  | none =>
      match visit.cursor.parent? with
      | some parent => { visit with cursor := parent }
      | none => { visit with phase := .done }

def move (visit : CommentVisit) : CommentVisit :=
  match visit.phase with
  | .enter => visit.enter
  | .climb => visit.climb
  | .done => visit

def after : Nat → CommentVisit → CommentVisit
  | 0, visit => visit
  | count + 1, visit => after count visit.move

end CommentVisit

/-! ## How many nodes the visit comes to -/

namespace Node

/-- Whether a path leads below a comment node. -/
def leadsBelowComment (root : Node) (path : List Nat) : Bool :=
  (root.edges path).any fun edge => isCommentKind edge.parent.kind

/-- How many nodes of a tree lie below no comment node of it. -/
def uncovered (root : Node) : Nat :=
  root.paths.countP fun path => !root.leadsBelowComment path

theorem leadsBelowComment_cons
    {node child : Node} {index : Nat} (hchild : node.children[index]? = some child)
    (rest : List Nat) :
    node.leadsBelowComment (index :: rest) =
      (isCommentKind node.kind || child.leadsBelowComment rest) := by
  rw [leadsBelowComment, edges_cons hchild, List.any_cons]
  rfl

/-- Counting along the paths into siblings is counting in each of them. -/
theorem countP_pathsFrom (below : Node → List Nat → Bool) (atPath : List Nat → Bool) (index : Nat)
    {nodes : List Node}
    (hpaths : ∀ offset child rest, nodes[offset]? = some child →
      atPath ((index + offset) :: rest) = below child rest) :
    (pathsFrom index nodes).countP atPath =
      total (nodes.map fun child => child.paths.countP (below child)) := by
  induction nodes generalizing index with
  | nil => simp
  | cons first nodes ih =>
      have hfirst : (first.paths.map (index :: ·)).countP atPath =
          first.paths.countP (below first) := by
        rw [List.countP_map]
        apply List.countP_congr
        intro rest _
        rw [Function.comp_apply, ← hpaths 0 first rest rfl, Nat.add_zero]
      have hothers := ih (index + 1) fun offset child rest hchild => by
        rw [Nat.add_right_comm, Nat.add_assoc]
        exact hpaths (offset + 1) child rest hchild
      rw [pathsFrom_cons, List.countP_append, hfirst, hothers, List.map_cons, total_cons]

theorem uncovered_of_comment {node : Node} (hcomment : isCommentKind node.kind) :
    node.uncovered = 1 := by
  -- Every path that goes on from a comment node leads below it.
  have hbelow : (pathsFrom 0 node.children).countP (fun path => !node.leadsBelowComment path) =
      0 := by
    rw [List.countP_eq_zero]
    intro path hpath
    obtain ⟨offset, child, rest, hchild, rfl, _⟩ := mem_pathsFrom.mp hpath
    rw [Nat.zero_add, leadsBelowComment_cons hchild, hcomment]
    simp
  rw [uncovered, paths_eq, List.countP_cons, hbelow]
  rfl

theorem uncovered_of_other {node : Node} (hother : ¬ isCommentKind node.kind) :
    node.uncovered = 1 + total (node.children.map uncovered) := by
  have hbelow : (pathsFrom 0 node.children).countP (fun path => !node.leadsBelowComment path) =
      total (node.children.map uncovered) := by
    apply countP_pathsFrom fun child path => !child.leadsBelowComment path
    intro index child rest hchild
    rw [Nat.zero_add, leadsBelowComment_cons hchild]
    simp [hother]
  rw [uncovered, paths_eq, List.countP_cons, hbelow, Nat.add_comm]
  rfl

end Node

/-! ## Moves and nodes still to come -/

namespace CommentVisit

def toCome (visit : CommentVisit) : List Node :=
  match visit.phase with
  | .enter => Node.outermostCommentsAll visit.cursor.forest
  | .climb => Node.outermostCommentsAll visit.cursor.behind
  | .done => []

/-- The moves through trees side by side: each node is come to and gone back from. -/
def movesThrough (nodes : List Node) : Nat :=
  2 * total (nodes.map Node.uncovered)

/-- The moves from the end of a list of siblings back to the root. -/
def movesUp : List Rung → Nat
  | [] => 0
  | rung :: above => 1 + movesThrough rung.right + movesUp above

def movesLeft (visit : CommentVisit) : Nat :=
  match visit.phase with
  | .enter => movesThrough (visit.cursor.node :: visit.cursor.right) + movesUp visit.cursor.above
  | .climb => 1 + movesThrough visit.cursor.right + movesUp visit.cursor.above
  | .done => 0

theorem movesThrough_cons (node : Node) (rest : List Node) :
    movesThrough (node :: rest) = 2 * node.uncovered + movesThrough rest := by
  simp only [movesThrough, List.map_cons, total_cons]
  omega

/-- What a visit under way keeps. -/
structure Under (root : Node) (visit : CommentVisit) : Prop where
  stands : ∃ path, Cursor.StandsAt root visit.cursor path
  found : visit.found ++ visit.toCome = root.outermostComments

variable {root : Node} {visit : CommentVisit}

theorem under_start (root : Node) : Under root (start root) := by
  refine ⟨⟨[], .root⟩, ?_⟩
  simp [start, toCome, Cursor.forest, Cursor.behind, Cursor.ofRoot]

/-- Coming to a node finds it if it is a comment node, and goes below it if it is not. -/
theorem Under.enter (hunder : Under root visit) (hphase : visit.phase = .enter) :
    Under root visit.enter ∧ visit.enter.movesLeft + 1 = visit.movesLeft := by
  obtain ⟨phase, cursor, found⟩ := visit
  obtain rfl : phase = .enter := hphase
  obtain ⟨⟨path, hstands⟩, hfound⟩ := hunder
  rw [toCome, Cursor.forest, Node.outermostCommentsAll_cons, Node.outermostComments_eq] at hfound
  unfold CommentVisit.enter
  simp only at hfound ⊢
  by_cases hcomment : isCommentKind cursor.node.kind
  · rw [if_pos hcomment]
    rw [if_pos hcomment] at hfound
    refine ⟨⟨⟨path, hstands⟩, ?_⟩, ?_⟩
    · simpa [toCome] using hfound
    · simp only [movesLeft, movesThrough_cons, Node.uncovered_of_comment hcomment]
      omega
  · rw [if_neg hcomment]
    rw [if_neg hcomment] at hfound
    have hchild := hstands.firstChild?
    unfold Cursor.firstChild? at hchild ⊢
    cases hchildren : cursor.node.children with
    | nil =>
        rw [hchildren] at hfound
        refine ⟨⟨⟨path, hstands⟩, by simpa [toCome] using hfound⟩, ?_⟩
        simp only [movesLeft, movesThrough_cons, Node.uncovered_of_other hcomment, hchildren,
          List.map_nil, total_nil]
        omega
    | cons node right =>
        rw [hchildren] at hfound hchild
        refine ⟨⟨⟨_, hchild⟩, ?_⟩, ?_⟩
        · simpa [toCome, Cursor.forest, Cursor.behind, Node.outermostCommentsAll_eq_flatMap]
            using hfound
        · have hcount := Node.uncovered_of_other hcomment
          rw [hchildren, List.map_cons, total_cons] at hcount
          simp only [movesLeft, movesThrough_cons, movesUp, hcount]
          simp only [movesThrough]
          omega

/-- On the way back nothing is found. -/
theorem Under.climb (hunder : Under root visit) (hphase : visit.phase = .climb) :
    Under root visit.climb ∧ visit.climb.movesLeft + 1 = visit.movesLeft := by
  obtain ⟨phase, ⟨node, right, above⟩, found⟩ := visit
  obtain rfl : phase = .climb := hphase
  obtain ⟨⟨path, hstands⟩, hfound⟩ := hunder
  rw [toCome] at hfound
  unfold CommentVisit.climb
  rcases List.eq_nil_or_concat path with rfl | ⟨front, index, rfl⟩
  · -- At the root there is no way on.
    obtain ⟨rfl, rfl, rfl⟩ := Cursor.mk.inj hstands.eq_ofRoot
    exact ⟨⟨⟨[], hstands⟩, hfound⟩, rfl⟩
  · rw [List.concat_eq_append] at hstands
    cases right with
    | cons sibling right =>
        have hnext : Cursor.StandsAt root ⟨sibling, right, above⟩ (front ++ [index + 1]) :=
          hstands.nextSibling?
        refine ⟨⟨⟨_, hnext⟩, hfound⟩, ?_⟩
        simp only [movesLeft, Cursor.nextSibling?]
        omega
    | nil =>
        obtain ⟨next, hnext, hparent⟩ := hstands.parent?
        cases above with
        | nil => contradiction
        | cons rung above =>
            obtain rfl := Option.some.inj hnext
            refine ⟨⟨⟨front, hparent⟩, hfound⟩, ?_⟩
            simp only [movesLeft, Cursor.nextSibling?, Cursor.parent?, movesUp]
            simp only [movesThrough, List.map_nil, total_nil]
            omega

/-- Every move keeps the visit on its way and uses up one of the moves that are left. -/
theorem Under.move (hunder : Under root visit) (hphase : visit.phase ≠ .done) :
    Under root visit.move ∧ visit.move.movesLeft + 1 = visit.movesLeft := by
  unfold CommentVisit.move
  cases hvisit : visit.phase with
  | enter => exact hunder.enter hvisit
  | climb => exact hunder.climb hvisit
  | done => contradiction

theorem done_iff_movesLeft : visit.phase = .done ↔ visit.movesLeft = 0 := by
  cases hphase : visit.phase with
  | enter =>
      have hcursor : 0 < visit.cursor.node.uncovered := by
        by_cases hcomment : isCommentKind visit.cursor.node.kind
        · rw [Node.uncovered_of_comment hcomment]
          exact Nat.one_pos
        · rw [Node.uncovered_of_other hcomment]
          omega
      simp only [movesLeft, hphase, movesThrough_cons, reduceCtorEq, false_iff]
      omega
  | climb =>
      simp only [movesLeft, hphase, reduceCtorEq, false_iff]
      omega
  | done => simp [movesLeft, hphase]

theorem Under.after (hunder : Under root visit) (count : Nat) :
    Under root (after count visit) ∧ (after count visit).movesLeft = visit.movesLeft - count := by
  induction count generalizing visit with
  | zero => exact ⟨hunder, rfl⟩
  | succ count ih =>
      rw [CommentVisit.after]
      by_cases hdone : visit.phase = .done
      · have hmove : visit.move = visit := by rw [CommentVisit.move, hdone]
        have hnone := done_iff_movesLeft.mp hdone
        obtain ⟨hlater, hmoves⟩ := ih hunder
        rw [hmove]
        exact ⟨hlater, by omega⟩
      · obtain ⟨hmoved, hmoves⟩ := hunder.move hdone
        obtain ⟨hlater, hcount⟩ := ih hmoved
        exact ⟨hlater, by omega⟩

theorem movesLeft_start (root : Node) : (start root).movesLeft = 2 * root.uncovered := by
  simp [movesLeft, start, Cursor.ofRoot, movesThrough, movesUp]

/-- The visit is over after two moves for each node that it comes to. -/
theorem done_iff (root : Node) (count : Nat) :
    (after count (start root)).phase = .done ↔ 2 * root.uncovered ≤ count := by
  rw [done_iff_movesLeft, ((under_start root).after count).2, movesLeft_start]
  omega

/-- A visit that is done has found all outermost comment nodes. -/
theorem found_of_done {root : Node} {count : Nat}
    (hdone : (after count (start root)).phase = .done) :
    (after count (start root)).found = root.commentNodes := by
  have hfound := ((under_start root).after count).1.found
  rwa [toCome, hdone, List.append_nil, ← Node.commentNodes_eq] at hfound

end CommentVisit

/-! ## The nodes that are found -/

namespace Node

/-- A comment node on whose path from the root there is no other comment node. -/
def IsOutermostComment (root : Node) (path : List Nat) : Prop :=
  (∃ node, root.at? path = some node ∧ node.IsComment) ∧
    ∀ front above, front <+: path → front ≠ path → root.at? front = some above →
      ¬ above.IsComment

theorem isOutermostComment_nil (root : Node) : root.IsOutermostComment [] ↔ root.IsComment := by
  constructor
  · rintro ⟨⟨node, hnode, hcomment⟩, _⟩
    obtain rfl := Option.some.inj hnode
    exact hcomment
  · intro hcomment
    refine ⟨⟨root, rfl, hcomment⟩, ?_⟩
    intro front above hfront hne
    exact absurd (List.prefix_nil.mp hfront) hne

theorem isOutermostComment_cons
    {root child : Node} {index : Nat} (hchild : root.children[index]? = some child)
    (rest : List Nat) :
    root.IsOutermostComment (index :: rest) ↔
      ¬ root.IsComment ∧ child.IsOutermostComment rest := by
  have hat (path : List Nat) : root.at? (index :: path) = child.at? path := by
    rw [at?_cons, hchild, Option.bind_some]
  unfold IsOutermostComment
  rw [hat]
  constructor
  · rintro ⟨hnode, habove⟩
    refine ⟨habove [] root List.nil_prefix (by simp) rfl, hnode, ?_⟩
    intro front above hfront hne hat'
    apply habove (index :: front) above (List.cons_prefix_cons.mpr ⟨rfl, hfront⟩)
    · simpa using hne
    · rw [hat, hat']
  · rintro ⟨hroot, hnode, habove⟩
    refine ⟨hnode, ?_⟩
    rintro (_ | ⟨first, front⟩) above hfront hne hat'
    · obtain rfl := Option.some.inj hat'
      exact hroot
    · obtain ⟨rfl, hrest⟩ := List.cons_prefix_cons.mp hfront
      rw [hat] at hat'
      exact habove front above hrest (by simpa using hne) hat'

theorem outermostCommentAt?_isSome_iff {root : Node} {path : List Nat} :
    (root.outermostCommentAt? path).isSome ↔ root.IsOutermostComment path := by
  induction path generalizing root with
  | nil =>
      rw [outermostCommentAt?_nil, isOutermostComment_nil, ← isComment_iff]
      split <;> simp [*]
  | cons index rest ih =>
      cases hchild : root.children[index]? with
      | none =>
          have hnone : root.at? (index :: rest) = none := by
            rw [at?_cons, hchild, Option.bind_none]
          simp [outermostCommentAt?, IsOutermostComment, hnone]
      | some child =>
          rw [outermostCommentAt?_cons hchild, isOutermostComment_cons hchild, ← ih,
            ← isComment_iff]
          split <;> simp [*]

theorem at?_of_outermostCommentAt? {root node : Node} {path : List Nat}
    (hnode : root.outermostCommentAt? path = some node) : root.at? path = some node := by
  unfold outermostCommentAt? at hnode
  split at hnode
  · contradiction
  · exact (Option.filter_eq_some_iff.mp hnode).1

/-- The visit of comment nodes comes to an end, and finds each comment node that lies below no
other one, once and in the order of the paths. -/
theorem commentNodes_visited (root : Node) :
    ∃ paths : List (List Nat),
      paths.Pairwise (· < ·) ∧
      (∀ path, path ∈ paths ↔ root.IsOutermostComment path) ∧
      paths.map root.at? = root.commentNodes.map some ∧
      (∀ count, ∃ path,
        Cursor.StandsAt root (CommentVisit.after count (.start root)).cursor path) ∧
      (∀ count, (CommentVisit.after count (.start root)).phase = .done ↔
        2 * root.uncovered ≤ count) ∧
      ∀ extra, (CommentVisit.after (2 * root.uncovered + extra) (.start root)).found =
        root.commentNodes := by
  have hfound : root.commentNodes = root.paths.filterMap root.outermostCommentAt? := by
    rw [commentNodes_eq, outermostComments_eq_filterMap]
  refine ⟨root.paths.filter fun path => (root.outermostCommentAt? path).isSome,
    root.paths_increasing.filter _, ?_, ?_, ?_, CommentVisit.done_iff root, ?_⟩
  · intro path
    rw [List.mem_filter, mem_paths_iff, outermostCommentAt?_isSome_iff]
    refine and_iff_right_of_imp ?_
    rintro ⟨⟨node, hnode, _⟩, _⟩
    rw [hnode]
    rfl
  · rw [hfound, List.map_filterMap_some_eq_filter_map_isSome, List.filter_map]
    apply List.map_congr_left
    intro path hpath
    obtain ⟨node, hnode⟩ := Option.isSome_iff_exists.mp (List.mem_filter.mp hpath).2
    rw [hnode, at?_of_outermostCommentAt? hnode]
  · intro count
    exact ((CommentVisit.under_start root).after count).1.stands
  · intro extra
    exact CommentVisit.found_of_done
      ((CommentVisit.done_iff root _).mpr (Nat.le_add_right _ _))

end Node
end SourceOutline
