import SourceOutline.Proofs.Declaration.Documentation
import SourceOutline.Proofs.Declaration.OneRecord
import SourceOutline.Proofs.Declaration.Walk
import SourceOutline.Proofs.Signature.Texts

/-!
# Every text of a record comes from its declaration

The node that carries the signature of a function is the node of the function itself
or lies below it: it is the value of a binding or a property, or a type of functions.
With nested spans the text of the one is a part of the text of the other, so all that
is read at the signature is read within the declaration.
-/

namespace SourceOutline

/-! ## Signatures lie within their declarations -/

namespace Vocabulary

variable {vocabulary : Vocabulary} {node signature : Node}

theorem mem_preorder_of_functionValue?
    (hvalue : vocabulary.functionValue? node = some signature) : signature ∈ node.preorder := by
  obtain ⟨field, _, hfield⟩ := List.exists_of_findSome?_eq_some hvalue
  exact Node.mem_preorder_of_child? (Option.filter_eq_some_iff.mp hfield).1

theorem mem_preorder_of_memberValue?
    (hvalue : vocabulary.memberValue? node = some signature) : signature ∈ node.preorder := by
  unfold memberValue? at hvalue
  split at hvalue
  next value hassigned =>
    cases hvalue
    exact mem_preorder_of_functionValue? hassigned
  next =>
    obtain ⟨type, htype, hvalue⟩ := Option.bind_eq_some_iff.mp hvalue
    have hinner :
        (if type.kind = "type_annotation" then type.namedChildren.head?.getD type else type) ∈
          type.preorder := by
      split
      · cases hhead : type.namedChildren.head? with
        | none => exact type.mem_preorder_self
        | some first =>
            exact Node.mem_preorder_of_mem_namedChildren (List.mem_of_mem_head? hhead)
      · exact type.mem_preorder_self
    obtain ⟨_, hfound⟩ := Option.ite_none_right_eq_some.mp hvalue
    cases hfound
    exact Node.mem_preorder_trans hinner (Node.mem_preorder_of_child? htype)

theorem mem_preorder_of_signature?
    (hsignature : (vocabulary.classify node).signature? node = some signature) :
    signature ∈ node.preorder := by
  have hself : node ∈ node.preorder := node.mem_preorder_self
  unfold classify at hsignature
  repeat' split at hsignature
  all_goals simp only [Shape.signature?, Option.some.injEq, reduceCtorEq] at hsignature
  all_goals subst hsignature
  · exact hself
  next hvalue => exact mem_preorder_of_functionValue? hvalue
  next hvalue _ => exact Node.mem_preorder_of_child? hvalue
  next hvalue => exact mem_preorder_of_functionValue? hvalue

theorem mem_preorder_of_member?
    {member : Member} (hmember : vocabulary.member? node = some member) :
    member.signature ∈ node.preorder := by
  unfold member? at hmember
  split at hmember
  · cases hmember
    exact node.mem_preorder_self
  · split at hmember
    · split at hmember
      · cases hmember
        exact node.mem_preorder_self
      · contradiction
    · split at hmember
      · obtain ⟨value, hvalue, rfl⟩ := Option.map_eq_some_iff.mp hmember
        exact mem_preorder_of_memberValue? hvalue
      · contradiction

/-- The signature of a member is part of the member. -/
theorem mem_preorder_of_mem_membersFrom
    {pending : List Node} {member : Member} (hmember : member ∈ vocabulary.membersFrom pending) :
    member.signature ∈ member.node.preorder := by
  fun_induction membersFrom vocabulary pending with
  | case1 => contradiction
  | case2 node rest unwrap hwrapper ih => exact ih hmember
  | case3 node rest hwrapper first hfirst ih =>
      rcases List.mem_cons.mp hmember with rfl | hrest
      · rw [member?_node hfirst]
        exact mem_preorder_of_member? hfirst
      · exact ih hrest
  | case4 node rest hwrapper hnone ih => exact ih hmember

theorem mem_preorder_of_mem_members
    {member : Member} (hmember : member ∈ vocabulary.members node) :
    member.signature ∈ member.node.preorder := by
  unfold members at hmember
  split at hmember
  · exact mem_preorder_of_mem_membersFrom hmember
  · contradiction

theorem mem_preorder_of_mem_visitsFrom
    {pending : List Pending} (hvisit : .function node signature ∈ vocabulary.visitsFrom pending) :
    signature ∈ node.preorder := by
  induction pending using vocabulary.turnInduction with
  | nil => simp [visitsFrom] at hvisit
  | turn parent other rest ih =>
      rw [visitsFrom_cons, List.mem_append, Option.mem_toList] at hvisit
      rcases hvisit with hstop | hrest
      · unfold stop? at hstop
        split at hstop
        · simp at hstop
        · split at hstop
          · contradiction
          · obtain ⟨found, hfound, hvisit⟩ := Option.map_eq_some_iff.mp hstop
            cases hvisit
            exact mem_preorder_of_signature? hfound
      · exact ih hrest

end Vocabulary

/-! ## Sites lie within the tree -/

namespace SourceUnit

variable {unit : SourceUnit}

theorem mem_preorder_of_mem_callableSites
    {site : Member} (hsite : site ∈ unit.callableSites) :
    site.node ∈ unit.root.preorder ∧ site.signature ∈ site.node.preorder := by
  have hnodes : site.node ∈ unit.declarationNodes := by
    unfold declarationNodes
    rcases List.mem_append.mp hsite with hfunction | hmethod
    · exact List.mem_append_left _ (List.mem_append_left _ (List.mem_map_of_mem hfunction))
    · obtain ⟨node, hnode, hmethod⟩ := List.mem_flatMap.mp hmethod
      exact List.mem_append_right _
        (List.mem_flatMap.mpr ⟨node, hnode, List.mem_map_of_mem hmethod⟩)
  refine ⟨unit.declarationNodes_subperm.subset hnodes, ?_⟩
  rcases List.mem_append.mp hsite with hfunction | hmethod
  · obtain ⟨visit, hvisit, hmember⟩ := List.mem_filterMap.mp hfunction
    cases visit with
    | classLike node => contradiction
    | function node signature =>
        cases hmember
        exact Vocabulary.mem_preorder_of_mem_visitsFrom (List.mem_filter.mp hvisit).1
  · obtain ⟨node, _, hmember⟩ := List.mem_flatMap.mp hmethod
    exact Vocabulary.mem_preorder_of_mem_members (List.mem_filter.mp hmember).1

theorem mem_preorder_of_mem_classSites {node : Node} (hnode : node ∈ unit.classSites) :
    node ∈ unit.root.preorder := by
  refine unit.declarationNodes_subperm.subset ?_
  exact List.mem_append_left _ (List.mem_append_right _ hnode)

/-! ## The texts of one record -/

/-- The texts of a function record: its name and the names of its parameters stand in
the text of its own node, and its types stand there or in the comment of the node. -/
structure FunctionTexts (unit : SourceUnit) (site : Member) (record : FunctionRecord) :
    Prop where
  made : unit.RecordsFunction site record
  name : record.name ≠ "" ∧ record.name.toList <:+: site.node.text unit.source
  parameters : ∀ parameter ∈ record.parameters,
    parameter.From (site.node.text unit.source) (unit.commentFor site.node)
  returnType : ∀ type ∈ record.returnType,
    type.toList <:+: site.node.text unit.source ∨
      ∃ tags, unit.commentFor site.node = some tags ∧ type.toList <:+: tags.toList

/-- The texts of a class record: its name stands in the text of its own node, and its
signature in the part of this text in front of the body, unless it is the bare name. -/
structure ClassTexts (unit : SourceUnit) (node : Node) (record : ClassRecord) : Prop where
  made : unit.RecordsClass node record
  name : record.name ≠ "" ∧ record.name.toList <:+: node.text unit.source
  signature :
    record.signature = "class " ++ record.name ∨
      ∃ body, node.child? unit.vocabulary.classBodyField = some body ∧
        record.signature ≠ "" ∧
        record.signature.toList <:+: unit.source.textBetween node.start body.start ∧
        unit.source.textBetween node.start body.start <+: node.text unit.source

theorem declaredName_texts
    {node : Node} (hnode : node.Nested unit.source) (hnamed : unit.isNamed node) :
    String.ofList (unit.vocabulary.declaredName node unit.source) ≠ "" ∧
      (String.ofList (unit.vocabulary.declaredName node unit.source)).toList <:+:
        node.text unit.source := by
  constructor
  · intro hempty
    rw [isNamed, String.ofList_eq_empty_iff.mp hempty] at hnamed
    contradiction
  · rw [String.toList_ofList]
    exact unit.vocabulary.declaredName_within hnode

/-- All texts of a function come from its own extent or from its comment. -/
theorem functionTexts_of_record
    {site : Member} {record : FunctionRecord} (hrecord : unit.RecordsFunction site record)
    (hnode : site.node.Nested unit.source) (hsignature : site.signature ∈ site.node.preorder) :
    unit.FunctionTexts site record := by
  have hnamed := unit.functionRecord?_isSome record.id site.node site.signature
  rw [hrecord, Option.isSome_some] at hnamed
  have hname := declaredName_texts hnode hnamed.symm
  refine ⟨hrecord, ?_, ?_, ?_⟩
  · rw [functionRecord?_eq hrecord]
    exact hname
  · rw [functionRecord?_eq hrecord]
    exact Parameter.parameters_from hnode hsignature (unit.commentFor site.node)
  · intro type htype
    rw [functionRecord?_eq hrecord] at htype
    exact Node.returnType_from hnode hsignature _ (unit.commentFor site.node) htype

theorem textBetween_body
    {node body : Node} (hnode : node.Nested unit.source) {name : String}
    (hbody : node.child? name = some body) :
    unit.source.textBetween node.start body.start <+: node.text unit.source := by
  have hchild := List.mem_of_find?_eq_some hbody
  obtain ⟨hstart, hspan, hstop⟩ := hnode.inside node node.mem_preorder_self body hchild
  have hfirst := (hnode.boundaries node node.mem_preorder_self).1
  have hsecond := (hnode.boundaries body (Node.mem_preorder_of_child? hbody)).1
  rw [Node.text, hfirst.textBetween_eq hsecond hstart (hspan.trans hstop)]
  exact List.prefix_append _ _

/-- The signature of a class is the beginning of its extent, or its bare name. -/
theorem classTexts_of_record
    {node : Node} {record : ClassRecord} (hrecord : unit.RecordsClass node record)
    (hnode : node.Nested unit.source) : unit.ClassTexts node record := by
  have hnamed := unit.classRecord?_isSome record.id node
  rw [hrecord.made, Option.isSome_some] at hnamed
  have hname := declaredName_texts hnode hnamed.symm
  refine ⟨hrecord, ?_, ?_⟩
  · rw [classRecord?_eq hrecord.made]
    exact hname
  · rw [classRecord?_eq hrecord.made]
    unfold classSignature
    simp only
    split
    next => exact .inl (String.ofList_append ..)
    next body hbody =>
      split
      next => exact .inl (String.ofList_append ..)
      next head hhead =>
        refine .inr ⟨body, hbody, ?_, ?_, textBetween_body hnode hbody⟩
        · simpa using hhead
        · rw [String.toList_ofList]
          exact Text.trim_within _

/-- Every text of a record comes from its declaration.  In a tree with nested spans and
offsets between characters, each function, method and class has a name that is not
empty and that stands in the text of its own node; the names of parameters stand there
too, and so do types and the head of a class, apart from the few words that stand for
what is not written and the types that the nearest comment gives. -/
theorem texts_from_declarations
    (unit : SourceUnit) (hroot : unit.root.Nested unit.source) (id : Int) (fileName : String) :
    List.Forall₂ unit.FunctionTexts unit.callableSites
        ((unit.assemble id).file fileName).allFunctions ∧
      List.Forall₂ unit.ClassTexts unit.classSites (unit.assemble id).classes ∧
      unit.declarationNodes ⊆ unit.root.preorder := by
  refine ⟨?_, ?_, unit.declarationNodes_subperm.subset⟩
  · have hsites := (List.forall₂_and_left _ _).mpr
      ⟨fun site hsite => mem_preorder_of_mem_callableSites hsite,
        unit.allFunctions_records id fileName⟩
    refine hsites.imp ?_
    rintro site record ⟨⟨hnode, hsignature⟩, hrecord⟩
    exact functionTexts_of_record hrecord (hroot.of_mem hnode) hsignature
  · have hsites := (List.forall₂_and_left _ _).mpr
      ⟨fun node hnode => mem_preorder_of_mem_classSites hnode, unit.classes_records id⟩
    refine hsites.imp ?_
    rintro node record ⟨hnode, hrecord⟩
    exact classTexts_of_record hrecord (hroot.of_mem hnode)

/-- A class with a documented method, and with letters of two bytes in it. -/
def umlautSource : Bytes :=
  .ofString ("class Ä \x7b\n/** @param {é} a\n@returns {ö} */\n" ++ "ñ(a, ...b) {}\n\x7d")

def umlautRows : List TreeRow :=
  [⟨0, "program", 0, 62, true, none⟩,
    ⟨1, "class_declaration", 0, 62, true, none⟩,
    ⟨2, "identifier", 6, 8, true, some "name"⟩,
    ⟨2, "class_body", 9, 62, true, some "body"⟩,
    ⟨3, "method_definition", 46, 60, true, none⟩,
    ⟨4, "property_identifier", 46, 48, true, some "name"⟩,
    ⟨4, "formal_parameters", 48, 57, true, some "parameters"⟩,
    ⟨5, "identifier", 49, 50, true, none⟩,
    ⟨5, "rest_pattern", 52, 56, true, none⟩,
    ⟨6, "identifier", 55, 56, true, none⟩,
    ⟨4, "statement_block", 58, 60, true, some "body"⟩]

def umlautUnit (root : Node) : SourceUnit :=
  .ofSource umlautSource root Pack.javascript.comments Pack.javascript.vocabulary 9

def umlautClass : ClassRecord :=
  { id := 1, name := "Ä", line := 1, signature := "class Ä"
    methods :=
      [{ id := 2, name := "ñ", line := 4, returnType := some "ö"
         parameters := [{ name := "a", type := "é" }, { name := "b", type := "rest" }] }] }

theorem texts_from_declarations_umlauts :
    ∃ root, Node.ofRows? umlautRows = some root ∧ root.Nested umlautSource ∧
      ((umlautUnit root).assemble 1).classes = [umlautClass] ∧
      List.Forall₂ (umlautUnit root).FunctionTexts (umlautUnit root).callableSites
        (((umlautUnit root).assemble 1).file "a.js").allFunctions := by
  have hread :
      (Node.ofRows? umlautRows).map (fun root =>
          (decide (root.Nested umlautSource), ((umlautUnit root).assemble 1).classes)) =
        some (true, [umlautClass]) := by
    decide +kernel
  obtain ⟨root, hroot, hpair⟩ := Option.map_eq_some_iff.mp hread
  obtain ⟨hdecided, hclasses⟩ := Prod.mk.inj hpair
  have hnested : root.Nested umlautSource := of_decide_eq_true hdecided
  exact ⟨root, hroot, hnested, hclasses,
    (texts_from_declarations (umlautUnit root) hnested 1 "a.js").1⟩

end SourceUnit
end SourceOutline
