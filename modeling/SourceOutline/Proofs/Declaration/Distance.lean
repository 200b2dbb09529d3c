import SourceOutline.Proofs.Comment.Nearest
import SourceOutline.Proofs.Declaration.Documentation
import SourceOutline.Language.Pack
import SourceOutline.Tree.Rows

/-!
# Comments from further away

Two runs over the same source are compared, of which the second lets more lines lie
between a comment and its declaration.  The comment that is foremost within the
smaller distance stays so within the larger one: what is let in is further away than
any comment that was near enough before.  A declaration that has a comment within the
smaller distance therefore keeps it, and with it the same tags and the same record.

Without such a comment there were no tags, so every type of the record is one that
the code gives.  Tags that a comment further away brings only fill what was left open.
-/

namespace SourceOutline
namespace CommentIndex

variable {index : CommentIndex} {start : Nat} {limit wider : Int} {comments : List Comment}

theorem Qualifies.widen
    {comment : Comment} (hqualifies : index.Qualifies start limit comment)
    (hwider : limit ≤ wider) : index.Qualifies start wider comment :=
  ⟨hqualifies.1, hqualifies.2.1, hqualifies.2.2.trans hwider⟩

theorem linesAbove_le_of_rank_le
    {comment other : Comment} (hrank : index.rank start comment ≤ index.rank start other) :
    index.linesAbove start comment ≤ index.linesAbove start other := by
  rw [rank_le_iff] at hrank
  rcases hrank with hlt | ⟨heq, _⟩
  · exact hlt.le
  · exact heq.le

/-- Where some comment is near enough, the foremost one does not change with the
distance: what comes in ranks behind it. -/
theorem isForemost_widen_iff
    (hwider : limit ≤ wider) {near : Comment} (hnear : near ∈ comments)
    (hqualifies : index.Qualifies start limit near) (comment : Comment) :
    index.IsForemost start wider comments comment ↔
      index.IsForemost start limit comments comment := by
  constructor
  · rintro ⟨⟨hstop, hnonneg, _⟩, hleast⟩
    have hrank := hleast near hnear (hqualifies.widen hwider)
    have hlimit : index.linesAbove start comment ≤ limit :=
      (linesAbove_le_of_rank_le hrank).trans hqualifies.2.2
    refine ⟨⟨hstop, hnonneg, hlimit⟩, ?_⟩
    intro other hother hnext
    exact hleast other hother (hnext.widen hwider)
  · rintro ⟨hforemost, hleast⟩
    refine ⟨hforemost.widen hwider, ?_⟩
    intro other hother hnext
    by_cases hlimit : index.linesAbove start other ≤ limit
    · exact hleast other hother ⟨hnext.1, hnext.2.1, hlimit⟩
    · -- What only the greater distance lets in lies further up.
      have haway : index.linesAbove start comment < index.linesAbove start other := by
        have hnearer := hforemost.2.2
        omega
      exact rank_le_iff.mpr (.inl haway)

/-- A comment that was near enough stays the nearest when the limit grows. -/
theorem nearest_widen
    (source : Bytes) (hindex : index = ofComments source comments) (hwider : limit ≤ wider)
    {near : Comment} (hnear : near ∈ index.comments)
    (hqualifies : index.Qualifies start limit near) :
    index.nearest start wider = index.nearest start limit := by
  have hmem : near ∈ comments := by
    rw [hindex] at hnear
    exact (comments_perm source comments).mem_iff.mp hnear
  have hsame := isForemost_widen_iff hwider hmem hqualifies
  rw [nearest_eq_find? source comments start wider hindex,
    nearest_eq_find? source comments start limit hindex]
  simp only [hsame]

theorem nearest_eq_none
    (source : Bytes) (hindex : index = ofComments source comments)
    (hnone : ∀ comment ∈ index.comments, ¬ index.Qualifies start limit comment) :
    index.nearest start limit = none := by
  rw [nearest_eq_find? source comments start limit hindex, Option.map_eq_none_iff,
    List.find?_eq_none]
  intro comment hcomment hforemost
  have hmem : comment ∈ index.comments := by
    rw [hindex]
    exact (comments_perm source comments).mem_iff.mpr hcomment
  exact hnone comment hmem (of_decide_eq_true hforemost).1

end CommentIndex

/-! ## What a record has left open -/

/-- Another record differs from this one at most in types that are empty or absent
here. -/
structure FunctionRecord.CompletedBy (record other : FunctionRecord) : Prop where
  outline : other.outline = record.outline
  parameters : ∀ (index : Nat) (parameter : Parameter),
    record.parameters[index]? = some parameter → parameter.type ≠ "" →
      other.parameters[index]? = some parameter
  returnType : record.returnType ≠ none → other.returnType = record.returnType

theorem FunctionRecord.completedBy_self (record : FunctionRecord) : record.CompletedBy record :=
  ⟨rfl, fun _ _ hparameter _ => hparameter, fun _ => rfl⟩

theorem Declared.function?_outline (declared : Declared) :
    declared.outline.function? = declared.function?.map FunctionRecord.outline := by
  cases declared <;> rfl

theorem Declared.class?_outline (declared : Declared) :
    declared.outline.class? = declared.class?.map ClassRecord.outline := by
  cases declared <;> rfl

namespace Assembly

def outline (assembly : Assembly) : Assembly :=
  { assembly with declared := assembly.declared.map Declared.outline }

variable (assembly : Assembly)

theorem functions_outline :
    assembly.outline.functions = assembly.functions.map FunctionRecord.outline := by
  unfold functions outline
  rw [List.filterMap_map, List.map_filterMap]
  exact List.filterMap_congr fun declared _ => declared.function?_outline

theorem classes_outline :
    assembly.outline.classes = assembly.classes.map ClassRecord.outline := by
  unfold classes outline
  rw [List.filterMap_map, List.map_filterMap]
  exact List.filterMap_congr fun declared _ => declared.class?_outline

theorem allFunctions_outline (fileName : String) :
    (assembly.outline.file fileName).allFunctions =
      (assembly.file fileName).allFunctions.map FunctionRecord.outline := by
  simp only [FileRecord.allFunctions, file, functions_outline, classes_outline, List.map_append,
    List.map_flatMap, List.flatMap_map]
  rfl

end Assembly

namespace SourceUnit

variable {unit : SourceUnit} {site : Member} {record other : FunctionRecord} {wider : Int}

/-- Some comment ends near enough above a site. -/
def HasComment (unit : SourceUnit) (site : Member) : Prop :=
  ∃ comment ∈ unit.comments.comments,
    unit.comments.Qualifies site.node.start unit.limit comment

def withLimit (unit : SourceUnit) (limit : Int) : SourceUnit :=
  unit.withComments unit.comments limit

/-- The limit decides about types only: everything else stays. -/
theorem assemble_outline (unit : SourceUnit) (limit id : Int) :
    ((unit.withLimit limit).assemble id).outline = (unit.assemble id).outline := by
  have hdeclared :
      ((unit.withLimit limit).declarations id).map Declared.outline =
        (unit.declarations id).map Declared.outline :=
    unit.declarationsOf_outline unit.comments limit id (unit.vocabulary.visits unit.root)
  have hcounts (declared : List Declared) :
      declared.map Declared.count = (declared.map Declared.outline).map Declared.count := by
    rw [List.map_map]
    exact List.map_congr_left fun declared _ => declared.count_outline.symm
  simp only [assemble_eq, Assembly.outline]
  rw [hdeclared, hcounts, hdeclared, ← hcounts]

/-- With a comment within the smaller distance two runs read the same tags. -/
theorem tagsFor_withLimit
    {source : Bytes} {comments : List Comment} (hunit : unit.comments = .ofComments source comments)
    (hwider : unit.limit ≤ wider) (hcomment : unit.HasComment site) :
    (unit.withLimit wider).tagsFor site.node = unit.tagsFor site.node := by
  obtain ⟨near, hnear, hqualifies⟩ := hcomment
  have hnearest := CommentIndex.nearest_widen source hunit hwider hnear hqualifies
  exact congrArg DocTags.ofComment hnearest

theorem tagsFor_of_not_hasComment
    {source : Bytes} {comments : List Comment} (hunit : unit.comments = .ofComments source comments)
    (hnone : ¬ unit.HasComment site) : unit.tagsFor site.node = {} := by
  have hnearest : unit.comments.nearest site.node.start unit.limit = none := by
    apply CommentIndex.nearest_eq_none source hunit
    intro comment hcomment hqualifies
    exact hnone ⟨comment, hcomment, hqualifies⟩
  rw [tagsFor, hnearest]
  rfl

/-- What becomes of a record when comments may be further away. -/
structure Extended (unit : SourceUnit) (site : Member)
    (records : FunctionRecord × FunctionRecord) : Prop where
  kept : unit.HasComment site → records.2 = records.1
  completed : records.1.CompletedBy records.2

/-- For one declaration: what was known stays, and a further comment can only fill gaps. -/
theorem extended_of_records
    {source : Bytes} {comments : List Comment} (hunit : unit.comments = .ofComments source comments)
    (hwider : unit.limit ≤ wider) (hrecord : unit.RecordsFunction site record)
    (hother : (unit.withLimit wider).RecordsFunction site other)
    (houtline : other.outline = record.outline) : unit.Extended site (record, other) := by
  have hid : other.id = record.id := by
    have hoverall : other.outline.id = record.outline.id := by rw [houtline]
    exact hoverall
  have heq := functionRecord?_eq hrecord
  have hotherEq := functionRecord?_eq hother
  by_cases hcomment : unit.HasComment site
  · have hkept : other = record := by
      rw [tagsFor_withLimit hunit hwider hcomment, hid] at hotherEq
      exact hotherEq.trans heq.symm
    constructor
    · intro _
      exact hkept
    · rw [hkept]
      exact record.completedBy_self
  · have htags := tagsFor_of_not_hasComment hunit hcomment
    rw [htags] at heq
    have hparameters : record.parameters = site.signature.parameters unit.source {} := by
      rw [heq]
    constructor
    · intro hreached
      exact absurd hreached hcomment
    · refine ⟨houtline, ?_, ?_⟩
      · intro index parameter hparameter htype
        rw [hparameters] at hparameter
        exact written_of_recordsFunction hother hparameter htype
      · intro hreturn
        cases hannotated : site.signature.firstChild? unit.vocabulary.returnTypeFields with
        | none =>
            have habsent : record.returnType = none := by
              rw [heq, Node.returnType, hannotated]
            exact absurd habsent hreturn
        | some type =>
            have hannotation := annotated_of_recordsFunction hrecord hannotated
            have hotherAnnotation := annotated_of_recordsFunction hother hannotated
            exact hotherAnnotation.trans hannotation.symm

end SourceUnit

theorem forall₂_zip_of_map_eq
    {α β γ : Type} {R S : α → β → Prop} {T : α → β × β → Prop} {f : β → γ}
    (hboth : ∀ a b c, R a b → S a c → f c = f b → T a (b, c)) {as : List α} {bs cs : List β}
    (hbs : List.Forall₂ R as bs) (hcs : List.Forall₂ S as cs) (hsame : cs.map f = bs.map f) :
    List.Forall₂ T as (bs.zip cs) := by
  induction hbs generalizing cs with
  | nil =>
      cases hcs
      exact .nil
  | cons hb _ ih =>
      cases hcs with
      | cons hc hcs =>
          rw [List.map_cons, List.map_cons, List.cons.injEq] at hsame
          exact .cons (hboth _ _ _ hb hc hsame.1) (ih hcs hsame.2)

namespace SourceUnit

/-- A greater distance takes nothing back.  The same records are made in the same order;
a function or a method that had a comment is recorded as before, and any other record
differs at most in parameter types that were empty and in a result that was absent. -/
theorem distance_extends
    (source : Bytes) (root : Node) (pack : Pack) {limit wider : Int} (hwider : limit ≤ wider)
    (id : Int) (fileName : String) :
    let near := SourceUnit.ofSource source root pack.comments pack.vocabulary limit
    let far := SourceUnit.ofSource source root pack.comments pack.vocabulary wider
    (far.assemble id).outline = (near.assemble id).outline ∧
      List.Forall₂ near.Extended near.callableSites
        (((near.assemble id).file fileName).allFunctions.zip
          ((far.assemble id).file fileName).allFunctions) := by
  intro near far
  have houtline : (far.assemble id).outline = (near.assemble id).outline :=
    near.assemble_outline wider id
  have hfunctions := congrArg (fun assembly => (assembly.file fileName).allFunctions) houtline
  simp only [Assembly.allFunctions_outline] at hfunctions
  refine ⟨houtline, ?_⟩
  apply forall₂_zip_of_map_eq ?_ (near.allFunctions_records id fileName)
    (far.allFunctions_records id fileName) hfunctions
  intro site record other hrecord hother hsame
  exact extended_of_records rfl hwider hrecord hother hsame

def spaced : Bytes :=
  ascii "/** @param {int} n */\nfunction f(n) {}\n\nfunction g(n) {}"

def spacedRows : List TreeRow :=
  [⟨0, "program", 0, 56, true, none⟩,
    ⟨1, "function_declaration", 22, 38, true, none⟩,
    ⟨2, "identifier", 31, 32, true, some "name"⟩,
    ⟨2, "formal_parameters", 32, 35, true, some "parameters"⟩,
    ⟨3, "identifier", 33, 34, true, none⟩,
    ⟨1, "function_declaration", 40, 56, true, none⟩,
    ⟨2, "identifier", 49, 50, true, some "name"⟩,
    ⟨2, "formal_parameters", 50, 53, true, some "parameters"⟩,
    ⟨3, "identifier", 51, 52, true, none⟩]

def spacedUnit (root : Node) (limit : Int) : SourceUnit :=
  .ofSource spaced root Pack.javascript.comments Pack.javascript.vocabulary limit

def spacedTypes (root : Node) (limit : Int) : List (List String) :=
  ((spacedUnit root limit).assemble 1).functions.map fun record =>
    record.parameters.map Parameter.type

theorem distance_extends_spaced :
    (2 : Int) ≤ 3 ∧ ∃ root, Node.ofRows? spacedRows = some root ∧
      spacedTypes root 2 = [["int"], [""]] ∧ spacedTypes root 3 = [["int"], ["int"]] ∧
      List.Forall₂ (spacedUnit root 2).Extended (spacedUnit root 2).callableSites
        ((((spacedUnit root 2).assemble 1).file "a.js").allFunctions.zip
          (((spacedUnit root 3).assemble 1).file "a.js").allFunctions) := by
  have hwider : (2 : Int) ≤ 3 := by decide
  have hread :
      (Node.ofRows? spacedRows).map (fun root => (spacedTypes root 2, spacedTypes root 3)) =
        some ([["int"], [""]], [["int"], ["int"]]) := by
    decide +kernel
  obtain ⟨root, hroot, htypes⟩ := Option.map_eq_some_iff.mp hread
  rw [Prod.mk.injEq] at htypes
  have hextended := distance_extends spaced root Pack.javascript hwider 1 "a.js"
  exact ⟨hwider, root, hroot, htypes.1, htypes.2, hextended.2⟩

end SourceUnit
end SourceOutline
