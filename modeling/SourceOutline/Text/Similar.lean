/-!
# Words that are nearly the same

How much two texts have in common is counted by runs: the longest run of
characters that stands in both is taken, then the longest ones before it and
behind it, and so on.  Texts are close when the characters taken are at least
three fifths of what there is to take.

Every step removes a run from the left text, so the count ends.
-/

namespace SourceOutline
namespace Similar

structure Run where
  left : Nat := 0
  right : Nat := 0
  size : Nat := 0
  deriving DecidableEq, Repr

def commonStart : List Char → List Char → Nat
  | a :: as, b :: bs => if a = b then commonStart as bs + 1 else 0
  | _, _ => 0

/-- The longer run; of two equally long ones the one found first. -/
def Run.longer (best other : Run) : Run :=
  if best.size < other.size then other else best

/-- The longest run of two texts.  Of several it is the leftmost one in the left
text, and then in the right one. -/
def longestRun (left right : List Char) : Run :=
  (List.range left.length).foldl (fun best i =>
    (List.range right.length).foldl (fun best j =>
      best.longer ⟨i, j, commonStart (left.drop i) (right.drop j)⟩) best) {}

def common (left right : List Char) : Nat :=
  match longestRun left right with
  | ⟨i, j, size⟩ =>
      if _h : 0 < size ∧ i + size ≤ left.length then
        common (left.take i) (right.take j) + size +
          common (left.drop (i + size)) (right.drop (j + size))
      else 0
termination_by left.length
decreasing_by
  · simp only [List.length_take]
    omega
  · simp only [List.length_drop]
    omega

/-- A text that resembles a given one: the characters that they have in common,
of those that both have together. -/
structure Likeness where
  text : String
  common : Nat
  together : Nat
  deriving DecidableEq, Repr

namespace Likeness

def of (word text : String) : Likeness :=
  ⟨text, Similar.common text.toList word.toList, text.length + word.length⟩

def isClose (likeness : Likeness) : Bool :=
  3 * likeness.together ≤ 10 * likeness.common

/-- Whether one text is to be named before another: the one that resembles more,
and of two that resemble equally the one that comes later in the alphabet. -/
def before (a b : Likeness) : Bool :=
  let left := a.common * b.together
  let right := b.common * a.together
  right < left || (right == left && b.text ≤ a.text)

end Likeness

/-- How many texts are offered at most. -/
def most : Nat := 3

/-- The candidates closest to a word, in the order of the alphabet. -/
def closest (candidates : List String) (word : String) : List String :=
  let close := (candidates.map (Likeness.of word)).filter Likeness.isClose
  let best := ((close.mergeSort Likeness.before).take most).map Likeness.text
  best.mergeSort fun a b => decide (a ≤ b)

end Similar
end SourceOutline
