import SourceOutline.Tree

/-!
# A cursor on a tree

A cursor stands on one node and remembers the way back: the siblings to the
right of it, and, for each node above, the siblings to the right of that one.
It moves to the first child, to the next sibling or to the parent, and it never
leaves the tree it started on.

`leap` is the step of a pre-order visit that has finished with a subtree: it
climbs until some node on the way up has a next sibling.
-/

namespace SourceOutline

/-- A node above the cursor with the siblings to its right. -/
structure Rung where
  node : Node
  right : List Node

structure Cursor where
  node : Node
  right : List Node := []
  above : List Rung := []

namespace Cursor

def ofRoot (root : Node) : Cursor :=
  { node := root }

def firstChild? (cursor : Cursor) : Option Cursor :=
  match cursor.node.children with
  | [] => none
  | child :: rest =>
      some { node := child, right := rest, above := ⟨cursor.node, cursor.right⟩ :: cursor.above }

def nextSibling? (cursor : Cursor) : Option Cursor :=
  match cursor.right with
  | [] => none
  | sibling :: rest => some { cursor with node := sibling, right := rest }

def parent? (cursor : Cursor) : Option Cursor :=
  match cursor.above with
  | [] => none
  | rung :: above => some { node := rung.node, right := rung.right, above := above }

/-- How many nodes lie to the right of the given rungs. -/
def ahead : List Rung → Nat
  | [] => 0
  | rung :: above => Node.sizes rung.right + ahead above

/-- How many nodes a pre-order visit still has in front of it, counting the
subtree under the cursor. -/
def remaining (cursor : Cursor) : Nat :=
  cursor.node.size + Node.sizes cursor.right + ahead cursor.above

theorem remaining_firstChild? {cursor child : Cursor} (h : cursor.firstChild? = some child) :
    child.remaining < cursor.remaining := by
  obtain ⟨⟨info, children⟩, right, above⟩ := cursor
  cases children with
  | nil => simp [firstChild?, Node.children] at h
  | cons first rest =>
      simp only [firstChild?, Node.children, Option.some.injEq] at h
      subst h
      simp only [remaining, ahead, Node.size_eq (Node.mk info (first :: rest)), Node.children,
        Node.sizes_cons]
      omega

/-- The next node in pre-order outside the subtree under the cursor. -/
def leap (cursor : Cursor) : Option Cursor :=
  match cursor.nextSibling? with
  | some sibling => some sibling
  | none =>
      match _h : cursor.parent? with
      | some parent => parent.leap
      | none => none
termination_by cursor.above.length
decreasing_by
  obtain ⟨node, right, above⟩ := cursor
  cases above with
  | nil => simp [parent?] at _h
  | cons rung above =>
      simp only [parent?, Option.some.injEq] at _h
      subst _h
      simp

/-- A leap lands to the right of the cursor or of some node above it. -/
theorem remaining_leap_le {cursor next : Cursor} (h : cursor.leap = some next) :
    next.remaining ≤ Node.sizes cursor.right + ahead cursor.above := by
  obtain ⟨node, right, above⟩ := cursor
  induction above generalizing node right with
  | nil =>
      rw [leap] at h
      cases right with
      | nil => simp [nextSibling?, parent?] at h
      | cons first rest =>
          simp only [nextSibling?, Option.some.injEq] at h
          subst h
          simp [remaining, ahead]
  | cons rung above ih =>
      rw [leap] at h
      cases right with
      | nil =>
          simp only [nextSibling?, parent?] at h
          have := ih rung.node rung.right h
          simp only [ahead, Node.sizes_nil]
          simp only at this
          omega
      | cons first rest =>
          simp only [nextSibling?, Option.some.injEq] at h
          subst h
          simp [remaining, ahead]

theorem remaining_leap {cursor next : Cursor} (h : cursor.leap = some next) :
    next.remaining < cursor.remaining := by
  have hle := remaining_leap_le h
  have hpos := cursor.node.size_pos
  simp only [remaining] at hle ⊢
  omega

end Cursor
end SourceOutline
