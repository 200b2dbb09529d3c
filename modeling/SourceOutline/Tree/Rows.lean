import SourceOutline.Tree

/-!
# Trees written as rows

A tree can be written as a list of rows in pre-order, each with the depth of its
node.  The parent of a row is the nearest row before it that is one level up.
Rows are read from the last to the first, so that the children of a row are
complete when the row itself is read.
-/

namespace SourceOutline

structure TreeRow where
  depth : Nat
  kind : String
  start : Nat
  stop : Nat
  named : Bool
  field : Option String
  deriving DecidableEq, Repr

namespace TreeRow

def info (row : TreeRow) (place : Nat) : NodeInfo :=
  { place, kind := row.kind, start := row.start, stop := row.stop, named := row.named,
    field := row.field }

/-- Reads one row in front of the trees already read, each with its depth: those
that lie deeper become its children. -/
def join (row : TreeRow × Nat) (trees : List (Nat × Node)) : List (Nat × Node) :=
  let deeper := trees.takeWhile fun tree => row.1.depth < tree.1
  let others := trees.dropWhile fun tree => row.1.depth < tree.1
  (row.1.depth, .mk (row.1.info row.2) (deeper.map Prod.snd)) :: others

end TreeRow

namespace Node

/-- The tree of a source in which a parser found nothing. -/
def bare (source : Bytes) : Node :=
  .mk { place := 0, kind := "program", start := 0, stop := source.length } []

/-- The tree that rows write. -/
def ofRows? (rows : List TreeRow) : Option Node :=
  (rows.zipIdx.foldr TreeRow.join []).head?.map Prod.snd

mutual
def preorder : Node → List Node
  | mk info children => mk info children :: preorderAll children

def preorderAll : List Node → List Node
  | [] => []
  | node :: rest => node.preorder ++ preorderAll rest
end

end Node
end SourceOutline
