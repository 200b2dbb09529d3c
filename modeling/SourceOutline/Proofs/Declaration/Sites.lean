import SourceOutline.Proofs.Declaration.Allocation
import Mathlib.Data.List.Forall2

/-!
# The nodes behind the records of a unit

A record does not say from which node it was made.  The sites of a unit are the
stops of its walk that have a name, and the sites of the methods of a class are
its members that have one.  Neither depends on the identifiers.  The records of
an assembly belong to these sites one by one and in order, whatever the counter
with which the assembly begins: each record is the one that its site makes under
the identifier of the record.
-/

namespace SourceOutline

namespace Visit

def node : Visit → Node
  | function node _ => node
  | classLike node => node

def function? : Visit → Option Member
  | function node signature => some ⟨node, signature⟩
  | classLike _ => none

def class? : Visit → Option Node
  | function _ _ => none
  | classLike node => some node

end Visit

namespace SourceUnit

def isNamed (unit : SourceUnit) (node : Node) : Bool :=
  !(unit.vocabulary.declaredName node unit.source).isEmpty

def sites (unit : SourceUnit) : List Visit :=
  (unit.vocabulary.visits unit.root).filter fun visit => unit.isNamed visit.node

def functionSites (unit : SourceUnit) : List Member :=
  unit.sites.filterMap Visit.function?

def classSites (unit : SourceUnit) : List Node :=
  unit.sites.filterMap Visit.class?

def methodSites (unit : SourceUnit) (node : Node) : List Member :=
  (unit.vocabulary.members node).filter fun member => unit.isNamed member.node

def siteCount (unit : SourceUnit) : Nat :=
  unit.functionSites.length +
    total (unit.classSites.map fun node => 1 + (unit.methodSites node).length)

/-- A function record is the one that a site makes under the record's identifier. -/
def RecordsFunction (unit : SourceUnit) (site : Member) (record : FunctionRecord) : Prop :=
  unit.functionRecord? record.id site.node site.signature = some record

/-- A class record is the one that a node makes under the record's identifier,
and its methods are those of the members that have names. -/
structure RecordsClass (unit : SourceUnit) (node : Node) (record : ClassRecord) : Prop where
  made : unit.classRecord? record.id node = some record
  methods : List.Forall₂ unit.RecordsFunction (unit.methodSites node) record.methods

def Records (unit : SourceUnit) : Visit → Declared → Prop
  | .function node signature, .function record => unit.RecordsFunction ⟨node, signature⟩ record
  | .classLike node, .classLike record => unit.RecordsClass node record
  | _, _ => False

variable {unit : SourceUnit} {id : Int} {node signature : Node}

/-! ## One site -/

/-- A function has a record if and only if it has a name. -/
theorem functionRecord?_isSome (unit : SourceUnit) (id : Int) (node signature : Node) :
    (unit.functionRecord? id node signature).isSome = unit.isNamed node := by
  unfold functionRecord? isNamed
  split <;> simp_all

theorem functionRecord?_eq
    {record : FunctionRecord} (hrecord : unit.functionRecord? id node signature = some record) :
    record =
      { id
        name := String.ofList (unit.vocabulary.declaredName node unit.source)
        line := unit.source.lineAt node.start
        parameters := signature.parameters unit.source (unit.tagsFor node)
        returnType :=
          signature.returnType unit.source unit.vocabulary.returnTypeFields
            (unit.tagsFor node) } := by
  unfold functionRecord? at hrecord
  split at hrecord
  · contradiction
  · exact (Option.some.inj hrecord).symm

theorem functionRecord?_id
    {record : FunctionRecord} (hrecord : unit.functionRecord? id node signature = some record) :
    record.id = id := by
  rw [functionRecord?_eq hrecord]

theorem recordsFunction_of_functionRecord?
    {record : FunctionRecord} (hrecord : unit.functionRecord? id node signature = some record) :
    unit.RecordsFunction ⟨node, signature⟩ record := by
  unfold RecordsFunction
  rw [functionRecord?_id hrecord]
  exact hrecord

theorem classRecord?_isSome (unit : SourceUnit) (id : Int) (node : Node) :
    (unit.classRecord? id node).isSome = unit.isNamed node := by
  unfold classRecord? isNamed
  split <;> simp_all

theorem classRecord?_eq
    {record : ClassRecord} (hrecord : unit.classRecord? id node = some record) :
    record =
      { id
        name := String.ofList (unit.vocabulary.declaredName node unit.source)
        line := unit.source.lineAt node.start
        signature := String.ofList
          (unit.classSignature node (unit.vocabulary.declaredName node unit.source))
        methods := unit.methods (id + 1) (unit.vocabulary.members node) } := by
  unfold classRecord? at hrecord
  split at hrecord
  · contradiction
  · exact (Option.some.inj hrecord).symm

theorem classRecord?_numbers
    {record : ClassRecord} (hrecord : unit.classRecord? id node = some record) :
    record.id = id ∧
      record.methods = unit.methods (id + 1) (unit.vocabulary.members node) := by
  rw [classRecord?_eq hrecord]
  exact ⟨rfl, rfl⟩

/-! ## Lists of sites -/

theorem methods_records (unit : SourceUnit) (id : Int) (members : List Member) :
    List.Forall₂ unit.RecordsFunction
      (members.filter fun member => unit.isNamed member.node) (unit.methods id members) := by
  induction members generalizing id with
  | nil => exact .nil
  | cons member rest ih =>
      have hnamed := unit.functionRecord?_isSome id member.node member.signature
      rw [methods]
      cases hrecord : unit.functionRecord? id member.node member.signature with
      | none =>
          rw [hrecord, Option.isSome_none] at hnamed
          simpa [← hnamed] using ih id
      | some record =>
          rw [hrecord, Option.isSome_some] at hnamed
          have hsite := recordsFunction_of_functionRecord? hrecord
          simpa [← hnamed] using And.intro hsite (ih (id + 1))

theorem recordsClass_of_classRecord?
    {record : ClassRecord} (hrecord : unit.classRecord? id node = some record) :
    unit.RecordsClass node record := by
  obtain ⟨hid, hmethods⟩ := classRecord?_numbers hrecord
  constructor
  · rw [hid]
    exact hrecord
  · rw [hmethods]
    exact methods_records unit (id + 1) (unit.vocabulary.members node)

/-- A stop gives a declaration exactly when it is named, and then one that records it. -/
theorem declared?_cases (unit : SourceUnit) (id : Int) (visit : Visit) :
    (unit.isNamed visit.node = false ∧ unit.declared? id visit = none) ∨
      ∃ declared, unit.isNamed visit.node = true ∧
        unit.declared? id visit = some declared ∧ unit.Records visit declared := by
  cases visit with
  | function node signature =>
      have hnamed := unit.functionRecord?_isSome id node signature
      cases hrecord : unit.functionRecord? id node signature with
      | none =>
          rw [hrecord, Option.isSome_none] at hnamed
          exact .inl ⟨hnamed.symm, by simp [declared?, hrecord]⟩
      | some record =>
          rw [hrecord, Option.isSome_some] at hnamed
          exact .inr ⟨.function record, hnamed.symm, by simp [declared?, hrecord],
            recordsFunction_of_functionRecord? hrecord⟩
  | classLike node =>
      have hnamed := unit.classRecord?_isSome id node
      cases hrecord : unit.classRecord? id node with
      | none =>
          rw [hrecord, Option.isSome_none] at hnamed
          exact .inl ⟨hnamed.symm, by simp [declared?, hrecord]⟩
      | some record =>
          rw [hrecord, Option.isSome_some] at hnamed
          exact .inr ⟨.classLike record, hnamed.symm, by simp [declared?, hrecord],
            recordsClass_of_classRecord? hrecord⟩

theorem declarationsOf_records (unit : SourceUnit) (id : Int) (visits : List Visit) :
    List.Forall₂ unit.Records
      (visits.filter fun visit => unit.isNamed visit.node) (unit.declarationsOf id visits) := by
  induction visits generalizing id with
  | nil => exact .nil
  | cons visit rest ih =>
      rw [declarationsOf]
      rcases unit.declared?_cases id visit with
        ⟨hunnamed, hnone⟩ | ⟨declared, hnamed, hsome, hsite⟩
      · rw [hnone]
        simpa [hunnamed] using ih id
      · rw [hsome]
        simpa [hnamed] using And.intro hsite (ih (id + declared.count))

/-! ## Whole units -/

theorem assemble_records (unit : SourceUnit) (id : Int) :
    List.Forall₂ unit.Records unit.sites (unit.assemble id).declared := by
  rw [declared_assemble]
  exact unit.declarationsOf_records id (unit.vocabulary.visits unit.root)

theorem functions_records (unit : SourceUnit) (id : Int) :
    List.Forall₂ unit.RecordsFunction unit.functionSites (unit.assemble id).functions := by
  refine List.rel_filterMap ?_ (unit.assemble_records id)
  intro visit declared hsite
  cases visit <;> cases declared <;>
    simp_all [Records, Visit.function?, Declared.function?]

theorem classes_records (unit : SourceUnit) (id : Int) :
    List.Forall₂ unit.RecordsClass unit.classSites (unit.assemble id).classes := by
  refine List.rel_filterMap ?_ (unit.assemble_records id)
  intro visit declared hsite
  cases visit <;> cases declared <;>
    simp_all [Records, Visit.class?, Declared.class?]

/-- The sites of the functions of a unit, then those of the methods of its classes. -/
def callableSites (unit : SourceUnit) : List Member :=
  unit.functionSites ++ unit.classSites.flatMap unit.methodSites

/-- The functions and methods of a file stand for its callable sites, one for one. -/
theorem allFunctions_records (unit : SourceUnit) (id : Int) (fileName : String) :
    List.Forall₂ unit.RecordsFunction unit.callableSites
      ((unit.assemble id).file fileName).allFunctions := by
  refine List.rel_append (unit.functions_records id) ?_
  refine List.rel_flatMap (unit.classes_records id) ?_
  intro node record hclass
  exact hclass.methods

theorem exists_classSite
    {unit : SourceUnit} {id : Int} {record : ClassRecord}
    (hrecord : record ∈ (unit.assemble id).classes) :
    ∃ node ∈ unit.classSites, unit.RecordsClass node record := by
  obtain ⟨index, hindex, rfl⟩ := List.getElem_of_mem hrecord
  have hclasses := unit.classes_records id
  have hsite : index < unit.classSites.length := by
    rw [hclasses.length_eq]
    exact hindex
  exact ⟨unit.classSites[index], List.getElem_mem hsite, hclasses.get hsite hindex⟩

/-- There are as many records as named sites. -/
theorem file_declarationCount_eq_siteCount
    (unit : SourceUnit) (id : Int) (fileName : String) :
    ((unit.assemble id).file fileName).declarationCount = unit.siteCount := by
  have hfunctions := (unit.functions_records id).length_eq
  have hclasses :
      (unit.classSites.map fun node => 1 + (unit.methodSites node).length) =
        (unit.assemble id).classes.map fun record => 1 + record.methods.length := by
    rw [← List.forall₂_eq_eq_eq, List.forall₂_map_left_iff, List.forall₂_map_right_iff]
    apply (unit.classes_records id).imp
    intro node record hclass
    rw [hclass.methods.length_eq]
  unfold FileRecord.declarationCount siteCount Assembly.file
  rw [hfunctions, hclasses]

end SourceUnit
end SourceOutline
