import SourceOutline.Proofs.Declaration.Sites
import SourceOutline.Proofs.DocTags

/-!
# What comments can change

Two runs over the same tree with different comments are compared.  A comment
reaches a record only through the tags of one function, and a tag is asked only
where the code says nothing: for a parameter whose written type is empty, and for
a result without an annotation.  All the rest of a record, and which records there
are, is the same in both runs.

The rest is told by the outline of a record, which is the record without its
types.  Equal outlines are carried from one function to the methods of a class and
to a whole file; that identifiers agree is part of this, since a run counts up by
the number of records made so far.
-/

namespace SourceOutline

def Parameter.outline (parameter : Parameter) : Parameter :=
  { parameter with type := "" }

/-- A record without the types that a comment may give. -/
def FunctionRecord.outline (record : FunctionRecord) : FunctionRecord :=
  { record with
    parameters := record.parameters.map Parameter.outline
    returnType := none }

def ClassRecord.outline (record : ClassRecord) : ClassRecord :=
  { record with methods := record.methods.map FunctionRecord.outline }

def Declared.outline : Declared → Declared
  | .function record => .function record.outline
  | .classLike record => .classLike record.outline

theorem Declared.count_outline (declared : Declared) :
    declared.outline.count = declared.count := by
  cases declared with
  | function record => rfl
  | classLike record => simp [outline, count, ClassRecord.outline]

/-! ## One function -/

namespace Parameter

theorem fill_none (parameter : Parameter) : fill {} parameter = parameter := by
  unfold fill
  split <;> rfl

theorem fill_outline (tags : DocTags) (parameter : Parameter) :
    (fill tags parameter).outline = parameter.outline := by
  unfold fill
  split <;> rfl

theorem fill_of_type_ne
    {parameter : Parameter} (htype : parameter.type ≠ "") (tags : DocTags) :
    fill tags parameter = parameter := by
  have hwritten : parameter.type.isEmpty = false := by
    rw [← Bool.not_eq_true, String.isEmpty_iff]
    exact htype
  simp [fill, hwritten]

theorem fill_of_type_eq
    {parameter : Parameter} (htype : parameter.type = "") (tags : DocTags) :
    fill tags parameter =
      { parameter with type := (tags.typeOf? parameter.name).getD "" } := by
  simp [fill, htype]

end Parameter

theorem Node.parameters_none (node : Node) (source : Bytes) :
    node.parameters source {} = node.writtenParameters source := by
  unfold parameters
  rw [funext Parameter.fill_none, List.map_id']

/-- Tags change a parameter only by filling it. -/
theorem Node.parameters_getElem?
    (node : Node) (source : Bytes) (tags : DocTags) (index : Nat) :
    (node.parameters source tags)[index]? =
      (node.parameters source {})[index]?.map (Parameter.fill tags) := by
  rw [parameters_none, parameters, List.getElem?_map]

theorem Node.parameters_outline (node : Node) (source : Bytes) (tags : DocTags) :
    (node.parameters source tags).map Parameter.outline =
      (node.writtenParameters source).map Parameter.outline := by
  unfold parameters
  rw [List.map_map]
  congr 1
  funext parameter
  exact parameter.fill_outline tags

namespace SourceUnit

def withComments (unit : SourceUnit) (comments : CommentIndex) (limit : Int) : SourceUnit :=
  { unit with comments, limit }

def commentFor (unit : SourceUnit) (node : Node) : Option String :=
  unit.comments.nearest node.start unit.limit

variable {unit : SourceUnit} {comments : CommentIndex} {limit : Int}

/-- Where the code gives a type, two records of one site have it. -/
structure SyntaxDecides (unit : SourceUnit) (site : Member)
    (records : FunctionRecord × FunctionRecord) : Prop where
  parameters : ∀ (index : Nat) (written : Parameter),
    (site.signature.parameters unit.source {})[index]? = some written → written.type ≠ "" →
      records.1.parameters[index]? = some written ∧ records.2.parameters[index]? = some written
  returnType :
    (site.signature.firstChild? unit.vocabulary.returnTypeFields).isSome →
      records.1.returnType = records.2.returnType

/-- Where the code gives no type, a record has the one that the first matching tag
of its comment declares. -/
structure GapsFilled (unit : SourceUnit) (site : Member) (record : FunctionRecord) : Prop where
  parameters : ∀ (index : Nat) (written : Parameter),
    (site.signature.parameters unit.source {})[index]? = some written → written.type = "" →
      record.parameters[index]? =
        some { written with
          type := ((unit.commentFor site.node).bind fun text =>
            DocTags.firstTypeOf? written.name text.toList).getD "" }
  returnType :
    site.signature.firstChild? unit.vocabulary.returnTypeFields = none →
      record.returnType =
        (unit.commentFor site.node).bind fun text => DocTags.firstReturnType? text.toList

theorem written_of_recordsFunction
    {site : Member} {record : FunctionRecord} (hrecord : unit.RecordsFunction site record)
    {index : Nat} {written : Parameter}
    (hwritten : (site.signature.parameters unit.source {})[index]? = some written)
    (htype : written.type ≠ "") : record.parameters[index]? = some written := by
  rw [functionRecord?_eq hrecord, Node.parameters_getElem?, hwritten, Option.map_some,
    Parameter.fill_of_type_ne htype]

theorem annotated_of_recordsFunction
    {site : Member} {record : FunctionRecord} (hrecord : unit.RecordsFunction site record)
    {type : Node}
    (htype : site.signature.firstChild? unit.vocabulary.returnTypeFields = some type) :
    record.returnType = some (String.ofList (type.annotationText unit.source)) := by
  rw [functionRecord?_eq hrecord, Node.returnType, htype]

/-- Two records of one site agree in all that the syntax decides. -/
theorem syntaxDecides_of_records
    {site : Member} {record other : FunctionRecord}
    (hrecord : unit.RecordsFunction site record)
    (hother : (unit.withComments comments limit).RecordsFunction site other) :
    unit.SyntaxDecides site (record, other) := by
  constructor
  · intro index written hwritten htype
    exact ⟨written_of_recordsFunction hrecord hwritten htype,
      written_of_recordsFunction hother hwritten htype⟩
  · intro hannotated
    obtain ⟨type, htype⟩ := Option.isSome_iff_exists.mp hannotated
    exact (annotated_of_recordsFunction hrecord htype).trans
      (annotated_of_recordsFunction hother htype).symm

/-- What the syntax leaves open comes from the tags of the comment. -/
theorem gapsFilled_of_record
    {site : Member} {record : FunctionRecord} (hrecord : unit.RecordsFunction site record) :
    unit.GapsFilled site record := by
  rw [functionRecord?_eq hrecord]
  constructor
  · intro index written hwritten htype
    rw [Node.parameters_getElem?, hwritten, Option.map_some,
      Parameter.fill_of_type_eq htype, tagsFor, DocTags.typeOf?_ofComment]
    rfl
  · intro hnone
    rw [Node.returnType, hnone, tagsFor, DocTags.returns_ofComment]
    rfl

end SourceUnit

theorem forall₂_zip
    {α β γ : Type} {R : α → β → Prop} {S : α → γ → Prop} {T : α → β × γ → Prop}
    (hboth : ∀ a b c, R a b → S a c → T a (b, c)) {as : List α} {bs : List β} {cs : List γ}
    (hbs : List.Forall₂ R as bs) (hcs : List.Forall₂ S as cs) :
    List.Forall₂ T as (bs.zip cs) := by
  induction hbs generalizing cs with
  | nil =>
      cases hcs
      exact .nil
  | cons hb _ ih =>
      cases hcs with
      | cons hc hcs => exact .cons (hboth _ _ _ hb hc) (ih hcs)

/-! ## Outlines of a unit -/

namespace SourceUnit

variable (unit : SourceUnit) (comments : CommentIndex) (limit : Int)

theorem functionRecord?_outline (id : Int) (node signature : Node) :
    ((unit.withComments comments limit).functionRecord? id node signature).map
        FunctionRecord.outline =
      (unit.functionRecord? id node signature).map FunctionRecord.outline := by
  simp only [functionRecord?, withComments]
  cases unit.vocabulary.declaredName node unit.source with
  | nil => rfl
  | cons c rest =>
      simp only [Option.map_some, functionRecord, FunctionRecord.outline, Node.parameters_outline]

theorem methods_outline (id : Int) (members : List Member) :
    ((unit.withComments comments limit).methods id members).map FunctionRecord.outline =
      (unit.methods id members).map FunctionRecord.outline := by
  induction members generalizing id with
  | nil => rfl
  | cons member rest ih =>
      -- Both runs make a record of the member or neither does, so they go on with
      -- the same identifier.
      have hsame := unit.functionRecord?_outline comments limit id member.node member.signature
      rw [methods, methods]
      revert hsame
      cases (unit.withComments comments limit).functionRecord? id member.node member.signature <;>
        cases unit.functionRecord? id member.node member.signature <;>
        intro hsame
      · exact ih id
      · contradiction
      · contradiction
      · simp only [Option.map_some, Option.some.injEq] at hsame
        simp only [List.map_cons, hsame, ih (id + 1)]

theorem classRecord?_outline (id : Int) (node : Node) :
    ((unit.withComments comments limit).classRecord? id node).map ClassRecord.outline =
      (unit.classRecord? id node).map ClassRecord.outline := by
  have hmethods := unit.methods_outline comments limit (id + 1) (unit.vocabulary.members node)
  simp only [classRecord?, withComments] at hmethods ⊢
  cases unit.vocabulary.declaredName node unit.source with
  | nil => rfl
  | cons c rest =>
      simp only [Option.map_some, classRecord, ClassRecord.outline, hmethods]
      rfl

theorem declared?_outline (id : Int) (visit : Visit) :
    ((unit.withComments comments limit).declared? id visit).map Declared.outline =
      (unit.declared? id visit).map Declared.outline := by
  cases visit with
  | function node signature =>
      have hsame := unit.functionRecord?_outline comments limit id node signature
      have hfunctions := congrArg (Option.map Declared.function) hsame
      simp only [declared?, Option.map_map] at hfunctions ⊢
      exact hfunctions
  | classLike node =>
      have hsame := unit.classRecord?_outline comments limit id node
      have hclasses := congrArg (Option.map Declared.classLike) hsame
      simp only [declared?, Option.map_map] at hclasses ⊢
      exact hclasses

/-- The outline of a whole walk does not depend on comments. -/
theorem declarationsOf_outline (id : Int) (visits : List Visit) :
    ((unit.withComments comments limit).declarationsOf id visits).map Declared.outline =
      (unit.declarationsOf id visits).map Declared.outline := by
  induction visits generalizing id with
  | nil => rfl
  | cons visit rest ih =>
      have hsame := unit.declared?_outline comments limit id visit
      rw [declarationsOf, declarationsOf]
      revert hsame
      cases (unit.withComments comments limit).declared? id visit <;>
        cases unit.declared? id visit <;> intro hsame
      · exact ih id
      · contradiction
      · contradiction
      next declared other =>
        simp only [Option.map_some, Option.some.injEq] at hsame
        have hcount : declared.count = other.count := by
          rw [← declared.count_outline, hsame, other.count_outline]
        simp only [List.map_cons, hsame, hcount, ih]

/-- Comments only fill gaps.  With other comments and another distance a unit makes
the same records in the same order, and they differ at most in types that the code
leaves open; there the type is that of the first matching tag of the nearest
comment, empty or absent when there is none. -/
theorem comments_fill_gaps (id : Int) (fileName : String) :
    ((unit.withComments comments limit).assemble id).declared.map Declared.outline =
        (unit.assemble id).declared.map Declared.outline ∧
      List.Forall₂ unit.SyntaxDecides unit.callableSites
        (((unit.assemble id).file fileName).allFunctions.zip
          (((unit.withComments comments limit).assemble id).file fileName).allFunctions) ∧
      List.Forall₂ unit.GapsFilled unit.callableSites
        ((unit.assemble id).file fileName).allFunctions ∧
      List.Forall₂ (unit.withComments comments limit).GapsFilled unit.callableSites
        (((unit.withComments comments limit).assemble id).file fileName).allFunctions := by
  have hrecords := unit.allFunctions_records id fileName
  have hothers := (unit.withComments comments limit).allFunctions_records id fileName
  refine ⟨?_, ?_, ?_, ?_⟩
  · rw [declared_assemble, declared_assemble]
    exact unit.declarationsOf_outline comments limit id (unit.vocabulary.visits unit.root)
  · exact forall₂_zip (fun site record other hrecord hother =>
      syntaxDecides_of_records hrecord hother) hrecords hothers
  · exact hrecords.imp fun site record hrecord => gapsFilled_of_record hrecord
  · exact hothers.imp fun site record hrecord => gapsFilled_of_record hrecord

end SourceUnit
end SourceOutline
