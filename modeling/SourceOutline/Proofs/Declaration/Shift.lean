import SourceOutline.Language.Pack
import SourceOutline.Proofs.Comment.Shift
import SourceOutline.Proofs.Declaration.Walk
import SourceOutline.Tree.Rows

/-!
# Declarations of a file that is moved down

Putting newlines in front of a file and moving its tree along changes the lines of
its declarations and nothing else.  What a node declares, the members of a class
and the stops of the walk depend on kinds and fields, which are not moved.  Names,
types and the heads of classes are texts, which are found again at the raised
offsets.  Comments keep their distance.

What the records need of two files is collected in `SourceUnit.MovedDown`; how a
file comes to be moved is not looked at again.
-/

namespace SourceOutline

def Shape.shifted (amount : Nat) : Shape → Shape
  | .binding value => .binding (value.shifted amount)
  | .typeAlias value => .typeAlias (value.shifted amount)
  | .property value => .property (value.shifted amount)
  | .function => .function
  | .classLike => .classLike
  | .exported => .exported
  | .unrecognized => .unrecognized

def Member.shifted (amount : Nat) (member : Member) : Member :=
  ⟨member.node.shifted amount, member.signature.shifted amount⟩

def Visit.shifted (amount : Nat) : Visit → Visit
  | .function node signature => .function (node.shifted amount) (signature.shifted amount)
  | .classLike node => .classLike (node.shifted amount)

def Pending.shifted (amount : Nat) (entry : Pending) : Pending :=
  ⟨entry.parent, entry.node.shifted amount⟩

namespace Vocabulary

variable (vocabulary : Vocabulary) (amount : Nat)

/-! ## What a node declares -/

theorem functionValue?_shifted (node : Node) :
    vocabulary.functionValue? (node.shifted amount) =
      (vocabulary.functionValue? node).map (Node.shifted amount) := by
  unfold functionValue?
  rw [List.map_findSome?]
  congr 1
  funext field
  simp only [Function.comp_apply, Node.child?_shifted]
  cases node.child? field with
  | none => rfl
  | some value =>
      simp only [Option.map_some, Option.filter_some, Node.kind_shifted]
      split <;> rfl

theorem memberValue?_shifted (node : Node) :
    vocabulary.memberValue? (node.shifted amount) =
      (vocabulary.memberValue? node).map (Node.shifted amount) := by
  unfold memberValue?
  rw [functionValue?_shifted, Node.child?_shifted]
  cases vocabulary.functionValue? node with
  | some value => rfl
  | none =>
      cases node.child? "type" with
      | none => rfl
      | some type =>
          have hinner :
              (if type.kind = "type_annotation" then
                  (type.namedChildren.head?.map (Node.shifted amount)).getD (type.shifted amount)
                else type.shifted amount) =
                (if type.kind = "type_annotation" then type.namedChildren.head?.getD type
                  else type).shifted amount := by
            split
            · cases type.namedChildren.head? <;> rfl
            · rfl
          simp only [Option.map_some, Option.map_none, Option.bind_some, Node.kind_shifted,
            Node.namedChildren_shifted, List.head?_map, hinner,
            apply_ite (Option.map (Node.shifted amount))]

theorem leadsToFunction_eq (declarator : Node) :
    vocabulary.leadsToFunction declarator =
      match declarator.child? "declarator" with
      | some inner =>
          if vocabulary.functionDeclaratorKinds.contains declarator.kind then
            inner.kind != "parenthesized_declarator"
          else vocabulary.leadsToFunction inner
      | none => vocabulary.functionDeclaratorKinds.contains declarator.kind := by
  rw [leadsToFunction]
  split
  next inner hinner => rw [hinner]
  next hnone => rw [hnone]

/-- Classification looks at kinds and fields, never at offsets. -/
theorem leadsToFunction_shifted (declarator : Node) :
    vocabulary.leadsToFunction (declarator.shifted amount) =
      vocabulary.leadsToFunction declarator := by
  fun_induction leadsToFunction vocabulary declarator with
  | case1 declarator inner hinner hkind =>
      rw [leadsToFunction_eq, Node.child?_shifted, hinner]
      simp only [Option.map_some, Node.kind_shifted]
      rw [if_pos hkind]
  | case2 declarator inner hinner hkind ih =>
      rw [leadsToFunction_eq, Node.child?_shifted, hinner]
      simp only [Option.map_some, Node.kind_shifted]
      rw [if_neg hkind, ih]
  | case3 declarator hnone =>
      rw [leadsToFunction_eq, Node.child?_shifted, hnone]
      simp only [Option.map_none, Node.kind_shifted]

theorem isPrototype_shifted (node : Node) :
    vocabulary.isPrototype (node.shifted amount) = vocabulary.isPrototype node := by
  unfold isPrototype
  rw [Node.child?_shifted]
  cases node.child? "declarator" with
  | none => rfl
  | some declarator => exact vocabulary.leadsToFunction_shifted amount declarator

theorem classify_shifted (node : Node) :
    vocabulary.classify (node.shifted amount) = (vocabulary.classify node).shifted amount := by
  unfold classify
  simp only [Node.kind_shifted, Node.child?_shifted, functionValue?_shifted, Option.isNone_map]
  cases vocabulary.functionValue? node <;>
    cases node.child? vocabulary.typeAliasValueField <;>
    simp only [Option.map_none, Option.map_some, Node.kind_shifted,
      apply_ite (Shape.shifted amount)] <;>
    rfl

/-! ## Members -/

theorem member?_shifted (node : Node) :
    vocabulary.member? (node.shifted amount) =
      (vocabulary.member? node).map (Member.shifted amount) := by
  unfold member?
  simp only [Node.kind_shifted, isPrototype_shifted, memberValue?_shifted,
    apply_ite (Option.map (Member.shifted amount)), Option.map_map, Option.map_some,
    Option.map_none]
  rfl

theorem unwrapped_shifted (node : Node) (unwrap : Unwrap) :
    unwrapped (node.shifted amount) unwrap =
      (unwrapped node unwrap).map (Node.shifted amount) := by
  cases unwrap with
  | flatten => exact node.namedChildren_shifted amount
  | field name => simp [unwrapped, Option.toList_map]

theorem membersFrom_shifted (pending : List Node) :
    vocabulary.membersFrom (pending.map (Node.shifted amount)) =
      (vocabulary.membersFrom pending).map (Member.shifted amount) := by
  fun_induction membersFrom vocabulary pending with
  | case1 => simp [membersFrom]
  | case2 node rest unwrap hwrapper ih =>
      rw [List.map_append, ← unwrapped_shifted] at ih
      rw [List.map_cons, membersFrom, Node.kind_shifted, hwrapper]
      exact ih
  | case3 node rest hwrapper member hmember ih =>
      rw [List.map_cons, membersFrom, Node.kind_shifted, hwrapper, member?_shifted, hmember]
      simp only [Option.map_some, ih, List.map_cons]
  | case4 node rest hwrapper hmember ih =>
      rw [List.map_cons, membersFrom, Node.kind_shifted, hwrapper, member?_shifted, hmember]
      exact ih

theorem members_shifted (node : Node) :
    vocabulary.members (node.shifted amount) =
      (vocabulary.members node).map (Member.shifted amount) := by
  unfold members
  rw [Node.child?_shifted]
  cases node.child? vocabulary.classBodyField with
  | none => rfl
  | some body =>
      simp only [Option.map_some, Node.namedChildren_shifted]
      exact vocabulary.membersFrom_shifted amount body.namedChildren

/-! ## The walk -/

theorem stop?_shifted (parent : Option String) (node : Node) :
    vocabulary.stop? parent (node.shifted amount) =
      (vocabulary.stop? parent node).map (Visit.shifted amount) := by
  unfold stop?
  rw [classify_shifted]
  cases hshape : vocabulary.classify node with
  | classLike => rfl
  | function | binding | exported | typeAlias | property | unrecognized =>
      by_cases hmember : vocabulary.inMemberList parent <;>
        simp [hmember, Shape.shifted, Shape.signature?, Visit.shifted]

theorem entered_shifted (node : Node) :
    vocabulary.entered (node.shifted amount) =
      (vocabulary.entered node).map (Node.shifted amount) := by
  unfold entered
  rw [classify_shifted]
  cases vocabulary.classify node with
  | classLike => exact node.childrenBut_shifted amount vocabulary.classBodyField
  | function | binding | exported | typeAlias | property | unrecognized =>
      exact node.children_shifted amount

theorem visitsFrom_shifted (pending : List Pending) :
    vocabulary.visitsFrom (pending.map (Pending.shifted amount)) =
      (vocabulary.visitsFrom pending).map (Visit.shifted amount) := by
  induction pending using vocabulary.turnInduction with
  | nil => simp [visitsFrom]
  | turn parent node rest ih =>
      have hbelow :
          (Pending.below node (vocabulary.entered node)).map (Pending.shifted amount) =
            Pending.below (node.shifted amount) (vocabulary.entered (node.shifted amount)) := by
        rw [entered_shifted]
        simp [Pending.below, Pending.shifted, Function.comp_def]
      rw [List.map_append, hbelow] at ih
      rw [List.map_cons, Pending.shifted, visitsFrom_cons, visitsFrom_cons, stop?_shifted, ih,
        List.map_append, Option.toList_map]

theorem visits_shifted (root : Node) :
    vocabulary.visits (root.shifted amount) =
      (vocabulary.visits root).map (Visit.shifted amount) :=
  vocabulary.visitsFrom_shifted amount [⟨none, root⟩]

/-! ## Names -/

variable {amount} {source moved : Bytes}

theorem nameText_shifted (hmoved : source.SameTextAt amount moved) (node : Node) :
    nameText (node.shifted amount) moved = nameText node source := by
  have hmember :
      (if memberAccessKinds.contains node.kind then
          (node.shifted amount).firstChild? memberNameFields else none) =
        (if memberAccessKinds.contains node.kind then node.firstChild? memberNameFields
          else none).map (Node.shifted amount) := by
    rw [Node.firstChild?_shifted, apply_ite (Option.map (Node.shifted amount)), Option.map_none]
  simp only [nameText, Node.kind_shifted, hmember, Node.text_shifted hmoved,
    Node.boundName_shifted hmoved]
  cases (if memberAccessKinds.contains node.kind then node.firstChild? memberNameFields
    else none) with
  | none => rfl
  | some name => exact name.text_shifted hmoved

theorem declaredName_shifted (hmoved : source.SameTextAt amount moved) (node : Node) :
    vocabulary.declaredName (node.shifted amount) moved = vocabulary.declaredName node source := by
  unfold declaredName
  rw [Node.firstChild?_shifted]
  cases node.firstChild? vocabulary.nameFields with
  | none => rfl
  | some name => exact nameText_shifted hmoved name

end Vocabulary

/-! ## Records -/

def FunctionRecord.movedDown (lines : Nat) (record : FunctionRecord) : FunctionRecord :=
  { record with line := record.line + lines }

def ClassRecord.movedDown (lines : Nat) (record : ClassRecord) : ClassRecord :=
  { record with
    line := record.line + lines
    methods := record.methods.map (FunctionRecord.movedDown lines) }

def Declared.movedDown (lines : Nat) : Declared → Declared
  | .function record => .function (record.movedDown lines)
  | .classLike record => .classLike (record.movedDown lines)

def Assembly.movedDown (lines : Nat) (assembly : Assembly) : Assembly :=
  { assembly with declared := assembly.declared.map (Declared.movedDown lines) }

theorem Declared.count_movedDown (lines : Nat) (declared : Declared) :
    (declared.movedDown lines).count = declared.count := by
  cases declared with
  | function record => rfl
  | classLike record => simp [movedDown, count, ClassRecord.movedDown]

namespace SourceUnit

/-- The second unit is the first one with all offsets raised by `amount` and all
lines by `lines`. -/
structure MovedDown (amount lines : Nat) (unit other : SourceUnit) : Prop where
  text : unit.source.SameTextAt amount other.source
  line : ∀ offset, other.source.lineAt (offset + amount) = unit.source.lineAt offset + lines
  root : other.root = unit.root.shifted amount
  vocabulary : other.vocabulary = unit.vocabulary
  nearest : ∀ start,
    other.comments.nearest (start + amount) other.limit = unit.comments.nearest start unit.limit

namespace MovedDown

variable {amount lines : Nat} {unit other : SourceUnit}

theorem functionRecord?
    (hmoved : MovedDown amount lines unit other) (id : Int) (node signature : Node) :
    other.functionRecord? id (node.shifted amount) (signature.shifted amount) =
      (unit.functionRecord? id node signature).map (FunctionRecord.movedDown lines) := by
  have htags : other.tagsFor (node.shifted amount) = unit.tagsFor node := by
    unfold tagsFor
    rw [Node.start_shifted, hmoved.nearest]
  simp only [SourceUnit.functionRecord?, SourceUnit.functionRecord, hmoved.vocabulary, Node.start_shifted, hmoved.line,
    htags, Vocabulary.declaredName_shifted _ hmoved.text, Node.parameters_shifted hmoved.text,
    Node.returnType_shifted hmoved.text]
  split <;> rfl

theorem methods
    (hmoved : MovedDown amount lines unit other) (id : Int) (members : List Member) :
    other.methods id (members.map (Member.shifted amount)) =
      (unit.methods id members).map (FunctionRecord.movedDown lines) := by
  induction members generalizing id with
  | nil => rfl
  | cons member rest ih =>
      rw [List.map_cons, SourceUnit.methods, SourceUnit.methods, Member.shifted,
        hmoved.functionRecord?]
      cases unit.functionRecord? id member.node member.signature with
      | none => exact ih id
      | some record => simp only [Option.map_some, List.map_cons, ih (id + 1)]

theorem classSignature
    (hmoved : MovedDown amount lines unit other) (node : Node) (name : List Char) :
    other.classSignature (node.shifted amount) name = unit.classSignature node name := by
  unfold SourceUnit.classSignature
  rw [hmoved.vocabulary, Node.child?_shifted]
  cases node.child? unit.vocabulary.classBodyField with
  | none => rfl
  | some body =>
      simp only [Option.map_some, Node.start_shifted]
      rw [hmoved.text]

theorem classRecord? (hmoved : MovedDown amount lines unit other) (id : Int) (node : Node) :
    other.classRecord? id (node.shifted amount) =
      (unit.classRecord? id node).map (ClassRecord.movedDown lines) := by
  simp only [SourceUnit.classRecord?, SourceUnit.classRecord, hmoved.vocabulary, Node.start_shifted, hmoved.line,
    Vocabulary.declaredName_shifted _ hmoved.text, hmoved.classSignature,
    Vocabulary.members_shifted, hmoved.methods]
  split <;> rfl

theorem declared? (hmoved : MovedDown amount lines unit other) (id : Int) (visit : Visit) :
    other.declared? id (visit.shifted amount) =
      (unit.declared? id visit).map (Declared.movedDown lines) := by
  cases visit with
  | function node signature =>
      simp only [Visit.shifted, SourceUnit.declared?, hmoved.functionRecord?, Option.map_map]
      rfl
  | classLike node =>
      simp only [Visit.shifted, SourceUnit.declared?, hmoved.classRecord?, Option.map_map]
      rfl

theorem declarationsOf
    (hmoved : MovedDown amount lines unit other) (id : Int) (visits : List Visit) :
    other.declarationsOf id (visits.map (Visit.shifted amount)) =
      (unit.declarationsOf id visits).map (Declared.movedDown lines) := by
  induction visits generalizing id with
  | nil => rfl
  | cons visit rest ih =>
      rw [List.map_cons, SourceUnit.declarationsOf, SourceUnit.declarationsOf, hmoved.declared?]
      cases unit.declared? id visit with
      | none => exact ih id
      | some declared =>
          simp only [Option.map_some, List.map_cons, Declared.count_movedDown, ih]

theorem assemble (hmoved : MovedDown amount lines unit other) (id : Int) :
    other.assemble id = (unit.assemble id).movedDown lines := by
  have hdeclared :
      other.declarations id = (unit.declarations id).map (Declared.movedDown lines) := by
    unfold declarations
    rw [hmoved.root, hmoved.vocabulary, Vocabulary.visits_shifted, hmoved.declarationsOf]
  simp only [assemble_eq, Assembly.movedDown, hdeclared, List.map_map,
    Function.comp_def, Declared.count_movedDown]

end MovedDown

/-- A file with inert bytes in front of it is moved down by their newlines. -/
theorem movedDown_ofSource
    {style : CommentStyle} {front : Bytes} (hfront : style.Inert front) (source : Bytes)
    (root : Node) (vocabulary : Vocabulary) (limit : Int) :
    MovedDown front.length (front.count Bytes.newline)
      (.ofSource source root style vocabulary limit)
      (.ofSource (front ++ source) (root.shifted front.length) style vocabulary limit) where
  text := Bytes.sameTextAt_append front source
  line := Bytes.lineAt_append front source
  root := rfl
  vocabulary := rfl
  nearest start := (CommentIndex.ofSource_raised hfront source root).nearest start limit

end SourceUnit

namespace Pack

theorem newline_not_mem_firstBytes
    {pack : Pack} (hpack : pack ∈ all) : Bytes.newline ∉ pack.comments.firstBytes := by
  revert pack
  decide

/-- Putting newlines in front of a file and moving its tree along moves every
declaration down by their number and changes nothing else. -/
theorem assemble_movedDown
    {pack : Pack} (hpack : pack ∈ all) (source : Bytes) (root : Node) (limit id : Int)
    (count : Nat) :
    (SourceUnit.ofSource (List.replicate count Bytes.newline ++ source) (root.shifted count)
        pack.comments pack.vocabulary limit).assemble id =
      ((SourceUnit.ofSource source root pack.comments pack.vocabulary limit).assemble
        id).movedDown count := by
  have hinert : pack.comments.Inert (List.replicate count Bytes.newline) := by
    intro b hb
    rw [List.eq_of_mem_replicate hb]
    exact newline_not_mem_firstBytes hpack
  have hmoved :=
    SourceUnit.movedDown_ofSource hinert source root pack.vocabulary limit
  rw [List.length_replicate, List.count_replicate_self] at hmoved
  exact hmoved.assemble id

def documented : Bytes :=
  ascii "/** @param {int} n */\nfunction f(n) {}"

def documentedRows : List TreeRow :=
  [⟨0, "program", 0, 38, true, none⟩,
    ⟨1, "comment", 0, 21, true, none⟩,
    ⟨1, "function_declaration", 22, 38, true, none⟩,
    ⟨2, "identifier", 31, 32, true, some "name"⟩,
    ⟨2, "formal_parameters", 32, 35, true, some "parameters"⟩,
    ⟨3, "identifier", 33, 34, true, none⟩]

def documentedUnit (front : Bytes) (root : Node) : SourceUnit :=
  .ofSource (front ++ documented) root javascript.comments javascript.vocabulary 2

theorem assemble_movedDown_documented :
    javascript ∈ all ∧
      ∃ root, Node.ofRows? documentedRows = some root ∧
        (((documentedUnit [] root).assemble 1).functions.map fun record =>
          (record.line, record.parameters)) = [(2, [⟨"n", "int", false⟩])] ∧
        (documentedUnit [10, 10, 10] (root.shifted 3)).assemble 1 =
          ((documentedUnit [] root).assemble 1).movedDown 3 := by
  have hpack : javascript ∈ all := by
    simp [all]
  have hread :
      (Node.ofRows? documentedRows).map (fun root =>
          ((documentedUnit [] root).assemble 1).functions.map fun record =>
            (record.line, record.parameters)) =
        some [(2, [⟨"n", "int", false⟩])] := by
    decide +kernel
  obtain ⟨root, hroot, hfunctions⟩ := Option.map_eq_some_iff.mp hread
  exact ⟨hpack, root, hroot, hfunctions, assemble_movedDown hpack documented root 2 1 3⟩

end Pack
end SourceOutline
