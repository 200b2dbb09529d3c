import SourceOutline.Proofs.Tree.Path
import SourceOutline.Signature.Parameter

/-!
# Trees moved to later offsets

Moving a tree raises every offset in it and changes nothing else.  Looking for a
child or for the children with a property asks about kinds and fields only, so it
finds the moved form of what it finds in the tree itself.  Texts are read at the
raised offsets; from a source that has the same bytes there, names, parameters and
types come out unchanged.
-/

namespace SourceOutline

def NodeInfo.shifted (amount : Nat) (info : NodeInfo) : NodeInfo :=
  { info with start := info.start + amount, stop := info.stop + amount }

namespace Node

mutual
def shifted (amount : Nat) : Node → Node
  | mk info children => mk (info.shifted amount) (shiftedAll amount children)

def shiftedAll (amount : Nat) : List Node → List Node
  | [] => []
  | node :: rest => node.shifted amount :: shiftedAll amount rest
end

theorem shiftedAll_eq_map (amount : Nat) (nodes : List Node) :
    shiftedAll amount nodes = nodes.map (shifted amount) := by
  induction nodes with
  | nil => rw [shiftedAll, List.map_nil]
  | cons node rest ih => rw [shiftedAll, ih, List.map_cons]

variable (amount : Nat) (node : Node)

theorem info_shifted : (node.shifted amount).info = node.info.shifted amount := by
  cases node
  rw [shifted]
  rfl

@[simp] theorem children_shifted :
    (node.shifted amount).children = node.children.map (shifted amount) := by
  cases node
  rw [shifted, shiftedAll_eq_map]
  rfl

@[simp] theorem kind_shifted : (node.shifted amount).kind = node.kind := by
  simp [kind, info_shifted, NodeInfo.shifted]

@[simp] theorem start_shifted : (node.shifted amount).start = node.start + amount := by
  simp [start, info_shifted, NodeInfo.shifted]

@[simp] theorem stop_shifted : (node.shifted amount).stop = node.stop + amount := by
  simp [stop, info_shifted, NodeInfo.shifted]

@[simp] theorem named_shifted : (node.shifted amount).named = node.named := by
  simp [named, info_shifted, NodeInfo.shifted]

@[simp] theorem hasField_shifted (name : String) :
    (node.shifted amount).hasField name = node.hasField name := by
  simp [hasField, field, info_shifted, NodeInfo.shifted]

@[simp] theorem isIdentifier_shifted :
    (node.shifted amount).isIdentifier = node.isIdentifier := by
  simp [isIdentifier]

/-! ## Children -/

@[simp] theorem namedChildren_shifted :
    (node.shifted amount).namedChildren = node.namedChildren.map (shifted amount) := by
  simp [namedChildren, List.filter_map, Function.comp_def]

@[simp] theorem childrenAt_shifted (name : String) :
    (node.shifted amount).childrenAt name = (node.childrenAt name).map (shifted amount) := by
  simp [childrenAt, List.filter_map, Function.comp_def]

@[simp] theorem childrenBut_shifted (name : String) :
    (node.shifted amount).childrenBut name = (node.childrenBut name).map (shifted amount) := by
  simp only [childrenBut, children_shifted, List.eraseP_map, Function.comp_def,
    hasField_shifted]

@[simp] theorem child?_shifted (name : String) :
    (node.shifted amount).child? name = (node.child? name).map (shifted amount) := by
  simp only [child?, children_shifted, List.find?_map, Function.comp_def, hasField_shifted]

@[simp] theorem firstChild?_shifted (names : List String) :
    (node.shifted amount).firstChild? names = (node.firstChild? names).map (shifted amount) := by
  unfold firstChild?
  rw [List.map_findSome?]
  congr 1
  funext name
  exact node.child?_shifted amount name

theorem innermost_eq :
    node.innermost =
      match node.firstChild? ["declarator", "name"] with
      | some inner => inner.innermost
      | none => node := by
  -- The definition keeps the equation of its match to justify the recursion, so it
  -- cannot be rewritten below the match.
  rw [innermost]
  split
  next inner hinner => rw [hinner]
  next hnone => rw [hnone]

theorem innermost_shifted :
    (node.shifted amount).innermost = node.innermost.shifted amount := by
  fun_induction innermost node with
  | case1 node inner hinner ih =>
      rw [innermost_eq, firstChild?_shifted, hinner]
      exact ih
  | case2 node hnone =>
      rw [innermost_eq, firstChild?_shifted, hnone]
      rfl

theorem parameterNodes_eq :
    node.parameterNodes =
      match node.child? "parameters" with
      | some list => if list.isIdentifier then [list] else list.namedChildren
      | none =>
          match node.child? "parameter" with
          | some single => [single]
          | none => (node.child? "declarator").elim [] parameterNodes := by
  rw [parameterNodes]
  cases node.child? "parameters" with
  | some list => rfl
  | none =>
      cases node.child? "parameter" with
      | some single => rfl
      | none =>
          simp only
          split
          next declarator hdeclarator => rw [hdeclarator]; rfl
          next hnone => rw [hnone]; rfl

theorem parameterNodes_shifted :
    (node.shifted amount).parameterNodes = node.parameterNodes.map (shifted amount) := by
  fun_induction parameterNodes node with
  | case1 node list hlist hidentifier =>
      rw [parameterNodes_eq, child?_shifted, hlist]
      simp [hidentifier]
  | case2 node list hlist hidentifier =>
      rw [parameterNodes_eq, child?_shifted, hlist]
      simp [hidentifier]
  | case3 node hlist single hsingle =>
      rw [parameterNodes_eq, child?_shifted, child?_shifted, hlist, hsingle]
      rfl
  | case4 node hlist hsingle declarator hdeclarator ih =>
      rw [parameterNodes_eq, child?_shifted, child?_shifted, child?_shifted, hlist, hsingle,
        hdeclarator]
      exact ih
  | case5 node hlist hsingle hdeclarator =>
      rw [parameterNodes_eq, child?_shifted, child?_shifted, child?_shifted, hlist, hsingle,
        hdeclarator]
      rfl

end Node

/-! ## Texts -/

/-- A source has the text of another at offsets raised by an amount. -/
def Bytes.SameTextAt (source : Bytes) (amount : Nat) (moved : Bytes) : Prop :=
  ∀ start stop, moved.textBetween (start + amount) (stop + amount) = source.textBetween start stop

theorem Bytes.sameTextAt_append (front source : Bytes) :
    source.SameTextAt front.length (front ++ source) := by
  intro start stop
  unfold textBetween slice
  rw [Nat.add_sub_add_right, Nat.add_comm, List.drop_length_add_append]

variable {amount : Nat} {source moved : Bytes}

namespace Node

theorem text_shifted (hmoved : source.SameTextAt amount moved) (node : Node) :
    (node.shifted amount).text moved = node.text source := by
  unfold text
  rw [start_shifted, stop_shifted]
  exact hmoved node.start node.stop

theorem boundName_shifted (hmoved : source.SameTextAt amount moved) (node : Node) :
    (node.shifted amount).boundName moved = node.boundName source := by
  have hfound :
      ((node.innermost.shifted amount).namedChildren.find? isIdentifier).getD
          (node.innermost.shifted amount) =
        ((node.innermost.namedChildren.find? isIdentifier).getD node.innermost).shifted
          amount := by
    rw [namedChildren_shifted, List.find?_map]
    simp only [Function.comp_def, isIdentifier_shifted]
    cases node.innermost.namedChildren.find? isIdentifier <;> rfl
  simp only [boundName, innermost_shifted, isIdentifier_shifted, hfound, text_shifted hmoved]

theorem annotationText_shifted (hmoved : source.SameTextAt amount moved) (node : Node) :
    (node.shifted amount).annotationText moved = node.annotationText source := by
  unfold annotationText
  rw [text_shifted hmoved]

theorem returnType_shifted
    (hmoved : source.SameTextAt amount moved) (node : Node) (fields : List String)
    (tags : DocTags) :
    (node.shifted amount).returnType moved fields tags = node.returnType source fields tags := by
  unfold returnType
  rw [firstChild?_shifted]
  cases node.firstChild? fields with
  | none => rfl
  | some type => simp [annotationText_shifted hmoved]

end Node

namespace Parameter

theorem writtenType_shifted (hmoved : source.SameTextAt amount moved) (node : Node) :
    writtenType (node.shifted amount) moved = writtenType node source := by
  unfold writtenType
  rw [Node.child?_shifted, Node.kind_shifted, Node.namedChildren_shifted, List.find?_map]
  cases node.child? "type" with
  | some type => exact type.annotationText_shifted hmoved
  | none =>
      simp only [Option.map_none, Function.comp_def, Node.kind_shifted]
      split
      · cases node.namedChildren.find? _ with
        | none => rfl
        | some element => simp [Node.text_shifted hmoved]
      · rfl

theorem target?_shifted (amount : Nat) (node : Node) :
    target? (node.shifted amount) = (target? node).map (Node.shifted amount) := by
  unfold target?
  rw [Node.firstChild?_shifted, Node.childrenBut_shifted]
  cases node.firstChild? targetFields with
  | some target => rfl
  | none =>
      simp only [Option.map_none, List.filter_map, List.find?_map, Function.comp_def,
        Node.named_shifted, Node.kind_shifted]

theorem restName_shifted (hmoved : source.SameTextAt amount moved) (node : Node) :
    restName (node.shifted amount) moved = restName node source := by
  unfold restName
  rw [Node.child?_shifted, Node.namedChildren_shifted, List.findSome?_map,
    Node.text_shifted hmoved]
  cases node.child? "name" with
  | some name => exact name.boundName_shifted hmoved
  | none =>
      simp only [Option.map_none, Function.comp_def, Node.isIdentifier_shifted,
        Node.kind_shifted, Node.text_shifted hmoved, Node.boundName_shifted hmoved]

theorem ofTarget_shifted
    (hmoved : source.SameTextAt amount moved) (target : Node) (type : List Char)
    (optional : Bool) :
    ofTarget (target.shifted amount) moved type optional =
      ofTarget target source type optional := by
  simp only [ofTarget, Node.kind_shifted, Node.text_shifted hmoved, restName_shifted hmoved,
    Node.boundName_shifted hmoved]

theorem ofComposite_shifted (hmoved : source.SameTextAt amount moved) (node : Node) :
    ofComposite (node.shifted amount) moved = ofComposite node source := by
  have hdefault : hasDefault (node.shifted amount) = hasDefault node := by
    simp [hasDefault]
  simp only [ofComposite, writtenType_shifted hmoved, hdefault, Node.kind_shifted,
    target?_shifted]
  rw [Node.childrenAt_shifted]
  rcases node.childrenAt "name" with _ | ⟨first, _ | ⟨second, rest⟩⟩
  · simp [ofTarget_shifted hmoved, Option.toList_map, Function.comp_def]
  · simp [ofTarget_shifted hmoved, Option.toList_map, Function.comp_def]
  · simp [Node.text_shifted hmoved, Function.comp_def]

theorem ofNode_shifted (hmoved : source.SameTextAt amount moved) (node : Node) :
    ofNode (node.shifted amount) moved = ofNode node source := by
  simp only [ofNode, Node.kind_shifted, Node.named_shifted, Node.isIdentifier_shifted,
    Node.text_shifted hmoved, restName_shifted hmoved, writtenType_shifted hmoved,
    ofComposite_shifted hmoved]

end Parameter

/-- Parameters depend on texts and kinds, not on offsets. -/
theorem Node.parameters_shifted
    (hmoved : source.SameTextAt amount moved) (node : Node) (tags : DocTags) :
    (node.shifted amount).parameters moved tags = node.parameters source tags := by
  simp only [parameters, writtenParameters, parameterNodes_shifted, List.flatMap_map,
    Parameter.ofNode_shifted hmoved]

end SourceOutline
