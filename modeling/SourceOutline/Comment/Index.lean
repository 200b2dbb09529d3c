import SourceOutline.Comment.Scan
import SourceOutline.Text.Search
import SourceOutline.Tree.Cursor

/-!
# The comments of one file, and the one that belongs to a declaration

An index joins two views of a file: the comments that the scanner found in its
bytes, and the comment nodes of its syntax tree.  There is one comment for each
end offset, and where both views have one the scanner's is kept.

A declaration takes the comment that ends nearest above it, measured in lines,
if it ends no further away than a given distance.  Of several comments that end
on the same line the first one is taken.
-/

namespace SourceOutline

/-- Comment nodes are those whose kind speaks of a comment. -/
def isCommentKind (kind : String) : Bool :=
  Text.occurs "comment".toList kind.toList

namespace Cursor

/-- The comment nodes from the cursor on, put behind those already `found` with
the last one found first.  The visit does not go below a comment node. -/
def commentNodesFrom (cursor : Cursor) (found : List Node) : List Node :=
  if isCommentKind cursor.node.kind then
    match _h : cursor.leap with
    | some next => next.commentNodesFrom (cursor.node :: found)
    | none => cursor.node :: found
  else
    match _h : cursor.firstChild? with
    | some child => child.commentNodesFrom found
    | none =>
        match _h : cursor.leap with
        | some next => next.commentNodesFrom found
        | none => found
termination_by cursor.remaining
decreasing_by
  · exact remaining_leap _h
  · exact remaining_firstChild? _h
  · exact remaining_leap _h

end Cursor

namespace Node

/-- The outermost comment nodes of a tree, in the order in which they stand. -/
def commentNodes (root : Node) : List Node :=
  ((Cursor.ofRoot root).commentNodesFrom []).reverse

def toComment (node : Node) (source : Bytes) : Comment :=
  Comment.ofSpan source node.start node.stop

end Node

namespace Bytes

/-- The offsets of the newlines of `bytes`, which begin at `offset`, put behind
those already `found` with the last one first. -/
def newlinesFrom (offset : Nat) (found : List Nat) : Bytes → List Nat
  | [] => found
  | b :: rest =>
      newlinesFrom (offset + 1) (if b = newline then offset :: found else found) rest

def newlines (bytes : Bytes) : List Nat :=
  (newlinesFrom 0 [] bytes).reverse

end Bytes

/-- Comments in the order of their ends, with the newlines of their source. -/
structure CommentIndex where
  comments : List Comment
  newlines : List Nat

namespace CommentIndex

/-- By end, and by start where the ends agree. -/
def endsBefore (a b : Comment) : Bool :=
  a.stop < b.stop || (a.stop == b.stop && a.start ≤ b.start)

def ofComments (source : Bytes) (comments : List Comment) : CommentIndex :=
  { comments := comments.mergeSort endsBefore, newlines := source.newlines }

/-- Puts a comment at the place of the one with the same end, or else behind the others. -/
def put (comments : List Comment) (comment : Comment) : List Comment :=
  match comments with
  | [] => [comment]
  | first :: rest =>
      if first.stop = comment.stop then comment :: rest else first :: put rest comment

/-- Adds a comment unless one with the same end is there. -/
def addMissing (comments : List Comment) (comment : Comment) : List Comment :=
  if comments.any (·.stop == comment.stop) then comments else comments ++ [comment]

/-- Indexes the comments of a source and of its tree. -/
def ofSource (style : CommentStyle) (source : Bytes) (root : Option Node) : CommentIndex :=
  let byEnd := (Comment.scan style source).foldl put []
  let nodes := root.elim [] Node.commentNodes
  ofComments source ((nodes.map (·.toComment source)).foldl addMissing byEnd)

def size (index : CommentIndex) : Nat :=
  index.comments.length

/-- The line on which an offset lies: one more than the newlines before it. -/
def lineOf (index : CommentIndex) (offset : Nat) : Nat :=
  (index.newlines.takeWhile (· < offset)).length + 1

/-- The best of `best` and the candidates, which come with the last one first.
A comment that ends further than `limit` above `line` ends the search, because
those before it end further away still. -/
def closest (index : CommentIndex) (line : Nat) (limit : Int) (best : Option Comment)
    (distance : Int) : List Comment → Option Comment
  | [] => best
  | comment :: rest =>
      let away : Int := line - index.lineOf comment.stop
      if limit < away then best
      else if away ≤ distance then closest index line limit (some comment) away rest
      else closest index line limit best distance rest

/-- The text of the comment that belongs to a declaration beginning at `start`. -/
def nearest (index : CommentIndex) (start : Nat) (limit : Int) : Option String :=
  let before := (index.comments.takeWhile (·.stop ≤ start)).reverse
  (closest index (index.lineOf start) limit none (limit + 1) before).map Comment.text

end CommentIndex
end SourceOutline
