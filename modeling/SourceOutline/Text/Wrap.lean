import SourceOutline.Text.Blank
import SourceOutline.Text.Cells
import SourceOutline.Text.Split

/-!
# Lines of a limited width

Widths are counted in cells.  A tab reaches to the next column that eight
divides.  A line that is too wide is broken before the word that does not fit.
The blanks behind a word stay with it as far as there is room.  A word that is
wider than a whole line begins a line of its own and is cut into pieces.
-/

namespace SourceOutline
namespace Text

/-- How far apart the columns are that tabs reach to. -/
def tabWidth : Nat := 8

/-- The parts of a line between its tabs with blanks in the place of the tabs,
from a column on. -/
def joinTabbed (column : Nat) : List (List Char) → List Char
  | [] => []
  | [last] => last
  | part :: rest =>
      let reached := column + cells part
      let gap := tabWidth - reached % tabWidth
      part ++ List.replicate gap ' ' ++ joinTabbed (reached + gap) rest

def withoutTabs (line : List Char) : List Char :=
  joinTabbed 0 (split '\t' line)

/-- The words of a text, each with the blanks behind it and the first one with
those before it as well.  `word` holds the characters of the first word that are
already read, the last one first, and `started` tells whether one of them is not
blank. -/
def wordsFrom (word : List Char) (started : Bool) : List Char → List (List Char)
  | [] => [word.reverse]
  | c :: rest =>
      if !isBlank c && started && word.head?.elim false isBlank then
        word.reverse :: wordsFrom [c] true rest
      else wordsFrom (c :: word) (started || !isBlank c) rest

/-- The pieces of a word; `piece` is the first of them so far, and `used` the
cells that it takes. -/
def piecesFrom (width used : Nat) (piece : List Char) : List Cluster → List (List Char)
  | [] => [piece]
  | cluster :: rest =>
      if width < used + cluster.width then
        piece :: piecesFrom width cluster.width cluster.text rest
      else piecesFrom width (used + cluster.width) (piece ++ cluster.text) rest

def pieces (width : Nat) (word : List Char) : List (List Char) :=
  piecesFrom width 0 [] (clusters word)

/-- Lines under construction: those that are done, the last one first, and the
one that is being filled. -/
structure Lines where
  done : List (List Char) := []
  current : List Char := []

namespace Lines

/-- Goes on in a new line, unless nothing has been written. -/
def next (lines : Lines) (text : List Char) : Lines :=
  if lines.done.isEmpty && lines.current.isEmpty then { lines with current := text }
  else { done := lines.current :: lines.done, current := text }

/-- Puts a word where it fits. -/
def place (width : Nat) (lines : Lines) (word : List Char) : Lines :=
  let size := cells (trimRight word)
  if cells lines.current + size ≤ width then { lines with current := lines.current ++ word }
  else if width < size then (pieces width word).foldl Lines.next lines
  else lines.next word

def toList (lines : Lines) : List (List Char) :=
  (lines.current :: lines.done).reverse

end Lines

/-- A line without the blanks at its end that are beyond a number of
characters. -/
def withoutExcess (width : Nat) (line : List Char) : List Char :=
  line.take (max width (trimRight line).length)

/-- The clusters of a line for which there is room, and a blank in the place of
half a cluster. -/
def croppedFrom (room : Nat) : List Cluster → List Char
  | [] => []
  | cluster :: rest =>
      if cluster.width ≤ room then cluster.text ++ croppedFrom (room - cluster.width) rest
      else List.replicate room ' '

def cropped (width : Nat) (line : List Char) : List Char :=
  if cells line ≤ width then line else croppedFrom width (clusters line)

/-- The lines of a text that holds no line break. -/
def wrap (width : Nat) (text : List Char) : List (List Char) :=
  let lines := (wordsFrom [] false (withoutTabs text)).foldl (Lines.place width) {}
  lines.toList.map fun line => cropped width (withoutExcess width line)

end Text
end SourceOutline
