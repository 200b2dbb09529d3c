import SourceOutline.Text.Utf8

/-!
# Syntax trees

A tree comes from a parser that this library does not look into.  A node knows
its kind, the bytes it spans, whether the grammar gives it a name, and the
field under which it hangs from its parent.  Spans are taken as they come:
nothing here relies on a child lying inside its parent.

Every node carries the place it has in a pre-order listing of its tree.  Two
nodes of one tree are the same node exactly when these places agree.
-/

namespace SourceOutline

structure NodeInfo where
  place : Nat
  kind : String
  start : Nat
  stop : Nat
  named : Bool := true
  field : Option String := none
  deriving DecidableEq, Repr

inductive Node where
  | mk (info : NodeInfo) (children : List Node)
  deriving Repr

namespace Node

def info : Node → NodeInfo
  | mk info _ => info

def children : Node → List Node
  | mk _ children => children

def place (node : Node) : Nat := node.info.place
def kind (node : Node) : String := node.info.kind
def start (node : Node) : Nat := node.info.start
def stop (node : Node) : Nat := node.info.stop
def named (node : Node) : Bool := node.info.named
def field (node : Node) : Option String := node.info.field

/-- Whether the node hangs from its parent under `name`. -/
def hasField (name : String) (node : Node) : Bool :=
  node.field == some name

def namedChildren (node : Node) : List Node :=
  node.children.filter named

def child? (node : Node) (name : String) : Option Node :=
  node.children.find? (hasField name)

def childrenAt (node : Node) (name : String) : List Node :=
  node.children.filter (hasField name)

/-- The first child under the first of `names` that has one. -/
def firstChild? (node : Node) (names : List String) : Option Node :=
  names.findSome? node.child?

/-- The children other than the first one under a field. -/
def childrenBut (node : Node) (name : String) : List Node :=
  node.children.eraseP (hasField name)

mutual
def size : Node → Nat
  | mk _ children => sizes children + 1

def sizes : List Node → Nat
  | [] => 0
  | node :: rest => node.size + sizes rest
end

theorem size_eq (node : Node) : node.size = sizes node.children + 1 := by
  cases node
  rfl

theorem size_pos (node : Node) : 0 < node.size := by
  rw [size_eq]
  omega

@[simp] theorem sizes_nil : sizes [] = 0 := rfl

@[simp] theorem sizes_cons (node : Node) (rest : List Node) :
    sizes (node :: rest) = node.size + sizes rest := rfl

@[simp] theorem sizes_append (xs ys : List Node) :
    sizes (xs ++ ys) = sizes xs + sizes ys := by
  induction xs with
  | nil => simp
  | cons x xs ih => simp [ih, Nat.add_assoc]

theorem sizes_le_of_sublist {xs ys : List Node} (h : xs.Sublist ys) :
    sizes xs ≤ sizes ys := by
  induction h with
  | slnil => simp
  | cons y _ ih => simp only [sizes_cons]; omega
  | cons_cons y _ ih => simp only [sizes_cons]; omega

theorem size_le_of_mem {node : Node} {nodes : List Node} (h : node ∈ nodes) :
    node.size ≤ sizes nodes := by
  have := sizes_le_of_sublist (List.singleton_sublist.2 h)
  simpa using this

theorem size_lt_of_mem_children {parent node : Node} (h : node ∈ parent.children) :
    node.size < parent.size := by
  have := size_le_of_mem h
  rw [size_eq parent]
  omega

theorem size_lt_of_child? {parent node : Node} {name : String}
    (h : parent.child? name = some node) : node.size < parent.size :=
  size_lt_of_mem_children (List.mem_of_find?_eq_some h)

theorem sizes_namedChildren_lt (node : Node) : sizes node.namedChildren < node.size := by
  have := sizes_le_of_sublist (List.filter_sublist (p := named) (l := node.children))
  rw [size_eq]
  exact Nat.lt_succ_of_le this

theorem sizes_childrenBut_lt (node : Node) (name : String) :
    sizes (node.childrenBut name) < node.size := by
  have := sizes_le_of_sublist (List.eraseP_sublist (p := hasField name) (l := node.children))
  rw [size_eq]
  exact Nat.lt_succ_of_le this

theorem size_lt_of_firstChild? {parent node : Node} {names : List String}
    (h : parent.firstChild? names = some node) : node.size < parent.size := by
  obtain ⟨name, _, hname⟩ := List.exists_of_findSome?_eq_some h
  exact size_lt_of_child? hname

def text (node : Node) (source : Bytes) : List Char :=
  source.textBetween node.start node.stop

end Node
end SourceOutline
