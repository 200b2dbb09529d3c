import SourceOutline.Proofs.Declaration.Sites
import Mathlib.Data.List.Perm.Basic
import Mathlib.Data.List.Flatten
import Mathlib.Order.MinMax

/-!
# The identifiers of records

Every declaration takes as many identifiers as it makes records, without a gap:
a function one, a class one for itself and the next ones for its methods.  Told
in the order in which declarations stand, the identifiers of an assembly count
up from the first free one, and the counter ends behind the last of them.  A
record of a file tells its functions before its classes; this moves identifiers,
but neither loses nor repeats one, and it keeps the order among functions and
among classes.

Several units assembled with one counter continue each other.
-/

namespace SourceOutline

def consecutive (first : Int) (count : Nat) : List Int :=
  (List.range count).map fun k : Nat => first + (k : Int)

@[simp] theorem consecutive_zero (first : Int) : consecutive first 0 = [] := rfl

theorem consecutive_succ (first : Int) (count : Nat) :
    consecutive first (count + 1) = first :: consecutive (first + 1) count := by
  unfold consecutive
  rw [List.range_succ_eq_map, List.map_cons, List.map_map]
  congr 1
  · simp
  · apply List.map_congr_left
    intro k _
    simp only [Function.comp_apply]
    omega

theorem consecutive_append (first : Int) (front back : Nat) :
    consecutive first (front + back) =
      consecutive first front ++ consecutive (first + front) back := by
  induction front generalizing first with
  | zero => simp
  | succ front ih =>
      have hshift : first + 1 + (front : Int) = first + ((front + 1 : Nat) : Int) := by
        omega
      rw [show front + 1 + back = front + back + 1 by omega, consecutive_succ,
        consecutive_succ, ih, List.cons_append, hshift]

theorem consecutive_increasing (first : Int) (count : Nat) :
    (consecutive first count).Pairwise (· < ·) := by
  unfold consecutive
  rw [List.pairwise_map]
  exact List.pairwise_lt_range.imp fun hlt => by omega

theorem consecutive_nodup (first : Int) (count : Nat) :
    (consecutive first count).Nodup :=
  (consecutive_increasing first count).imp fun hlt => by omega

/-! ## The identifiers a record holds -/

def ClassRecord.ids (record : ClassRecord) : List Int :=
  record.id :: record.methods.map FunctionRecord.id

def FileRecord.ids (file : FileRecord) : List Int :=
  file.functions.map FunctionRecord.id ++ file.classes.flatMap ClassRecord.ids

def Declared.ids : Declared → List Int
  | .function record => [record.id]
  | .classLike record => record.ids

namespace SourceUnit

variable {unit : SourceUnit}

/-- Methods have consecutive identifiers. -/
theorem methods_ids (unit : SourceUnit) (id : Int) (members : List Member) :
    (unit.methods id members).map FunctionRecord.id =
      consecutive id (unit.methods id members).length := by
  induction members generalizing id with
  | nil => rfl
  | cons member rest ih =>
      rw [methods]
      cases hrecord : unit.functionRecord? id member.node member.signature with
      | none => exact ih id
      | some record =>
          rw [List.map_cons, List.length_cons, consecutive_succ, ih,
            functionRecord?_id hrecord]

/-- The methods of a class follow it directly. -/
theorem classRecord?_ids
    {id : Int} {node : Node} {record : ClassRecord}
    (hrecord : unit.classRecord? id node = some record) :
    record.id = id ∧
      record.methods.map FunctionRecord.id =
        consecutive (record.id + 1) record.methods.length := by
  obtain ⟨hid, hmethods⟩ := classRecord?_numbers hrecord
  refine ⟨hid, ?_⟩
  rw [hmethods, hid]
  exact unit.methods_ids (id + 1) (unit.vocabulary.members node)

/-- A declaration uses up consecutive identifiers from the first free one on. -/
theorem declared?_ids
    {id : Int} {visit : Visit} {declared : Declared}
    (hdeclared : unit.declared? id visit = some declared) :
    declared.ids = consecutive id declared.count := by
  cases visit with
  | function node signature =>
      obtain ⟨record, hrecord, rfl⟩ := Option.map_eq_some_iff.mp hdeclared
      rw [Declared.ids, Declared.count, consecutive_succ, functionRecord?_id hrecord]
      rfl
  | classLike node =>
      obtain ⟨record, hrecord, rfl⟩ := Option.map_eq_some_iff.mp hdeclared
      obtain ⟨hid, hmethods⟩ := classRecord?_ids hrecord
      rw [Declared.ids, Declared.count, ClassRecord.ids, Nat.add_comm, consecutive_succ,
        hmethods, hid]

theorem declarationsOf_ids (unit : SourceUnit) (id : Int) (visits : List Visit) :
    (unit.declarationsOf id visits).flatMap Declared.ids =
      consecutive id (total ((unit.declarationsOf id visits).map Declared.count)) := by
  induction visits generalizing id with
  | nil => rfl
  | cons visit rest ih =>
      rw [declarationsOf]
      cases hdeclared : unit.declared? id visit with
      | none => exact ih id
      | some declared =>
          rw [List.flatMap_cons, List.map_cons, total_cons, consecutive_append, ih,
            declared?_ids hdeclared]

end SourceUnit

/-! ## One file -/

/-- The identifiers of a file are all those from `first` on, as many as it has
declarations.  Functions are told in the order of their identifiers, and so are
classes; the methods of a class follow it. -/
structure FileRecord.NumberedFrom (first : Int) (file : FileRecord) : Prop where
  ids : file.ids.Perm (consecutive first file.declarationCount)
  functions : (file.functions.map FunctionRecord.id).Pairwise (· < ·)
  classes : (file.classes.map ClassRecord.id).Pairwise (· < ·)
  methods : ∀ record ∈ file.classes,
    record.methods.map FunctionRecord.id = consecutive (record.id + 1) record.methods.length

theorem FileRecord.NumberedFrom.ids_nodup
    {first : Int} {file : FileRecord} (hfile : file.NumberedFrom first) : file.ids.Nodup :=
  hfile.ids.nodup_iff.mpr (consecutive_nodup _ _)

namespace Assembly

theorem file_ids_perm (assembly : Assembly) (fileName : String) :
    (assembly.file fileName).ids.Perm (assembly.declared.flatMap Declared.ids) := by
  unfold FileRecord.ids file functions classes
  induction assembly.declared with
  | nil => exact .refl _
  | cons declared rest ih =>
      cases declared with
      | function record =>
          simpa [List.filterMap_cons, Declared.function?, Declared.class?, Declared.ids] using ih
      | classLike record =>
          have hmove := (List.perm_append_comm_assoc
            ((rest.filterMap Declared.function?).map FunctionRecord.id) record.ids
            ((rest.filterMap Declared.class?).flatMap ClassRecord.ids)).trans
              (ih.append_left record.ids)
          simpa [List.filterMap_cons, Declared.function?, Declared.class?, Declared.ids]
            using hmove

theorem file_declarationCount (assembly : Assembly) (fileName : String) :
    (assembly.file fileName).declarationCount = total (assembly.declared.map Declared.count) := by
  unfold FileRecord.declarationCount file functions classes
  induction assembly.declared with
  | nil => rfl
  | cons declared rest ih =>
      cases declared <;>
        simp only [List.filterMap_cons, Declared.function?, Declared.class?, List.map_cons,
          List.length_cons, total_cons, Declared.count] at ih ⊢ <;>
        omega

theorem functions_ids_sublist (assembly : Assembly) :
    (assembly.functions.map FunctionRecord.id).Sublist
      (assembly.declared.flatMap Declared.ids) := by
  unfold functions
  induction assembly.declared with
  | nil => exact .slnil
  | cons declared rest ih =>
      cases declared with
      | function record =>
          simpa [List.filterMap_cons, Declared.function?, Declared.ids] using ih
      | classLike record =>
          simpa [List.filterMap_cons, Declared.function?] using
            ih.trans (List.sublist_append_right _ _)

theorem classes_ids_sublist (assembly : Assembly) :
    (assembly.classes.map ClassRecord.id).Sublist
      (assembly.declared.flatMap Declared.ids) := by
  unfold classes
  induction assembly.declared with
  | nil => exact .slnil
  | cons declared rest ih =>
      cases declared with
      | function record =>
          simpa [List.filterMap_cons, Declared.class?, Declared.ids] using ih.cons record.id
      | classLike record =>
          simpa [List.filterMap_cons, Declared.class?, Declared.ids, ClassRecord.ids] using
            ih.trans (List.sublist_append_right _ _)

end Assembly

namespace SourceUnit

theorem assemble_ids (unit : SourceUnit) (id : Int) :
    (unit.assemble id).declared.flatMap Declared.ids =
      consecutive id (total ((unit.assemble id).declared.map Declared.count)) := by
  rw [declared_assemble]
  exact unit.declarationsOf_ids id (unit.vocabulary.visits unit.root)

theorem assemble_numbered (unit : SourceUnit) (id : Int) (fileName : String) :
    ((unit.assemble id).file fileName).NumberedFrom id := by
  have hids := unit.assemble_ids id
  have hincreasing :
      ((unit.assemble id).declared.flatMap Declared.ids).Pairwise (· < ·) := by
    rw [hids]
    exact consecutive_increasing _ _
  constructor
  · rw [Assembly.file_declarationCount, ← hids]
    exact (unit.assemble id).file_ids_perm fileName
  · exact hincreasing.sublist (unit.assemble id).functions_ids_sublist
  · exact hincreasing.sublist (unit.assemble id).classes_ids_sublist
  · intro record hrecord
    obtain ⟨node, _, hclass⟩ := exists_classSite hrecord
    exact (classRecord?_ids hclass.made).2

theorem assemble_nextId (unit : SourceUnit) (id : Int) :
    (unit.assemble id).nextId = id + unit.siteCount := by
  rw [← unit.file_declarationCount_eq_siteCount id "", Assembly.file_declarationCount,
    assemble_eq]

end SourceUnit

/-! ## Moving the counter -/

def FunctionRecord.raised (amount : Int) (record : FunctionRecord) : FunctionRecord :=
  { record with id := record.id + amount }

def ClassRecord.raised (amount : Int) (record : ClassRecord) : ClassRecord :=
  { record with
    id := record.id + amount
    methods := record.methods.map (FunctionRecord.raised amount) }

def FileRecord.raised (amount : Int) (file : FileRecord) : FileRecord :=
  { file with
    functions := file.functions.map (FunctionRecord.raised amount)
    classes := file.classes.map (ClassRecord.raised amount) }

namespace Declared

def raised (amount : Int) : Declared → Declared
  | function record => function (record.raised amount)
  | classLike record => classLike (record.raised amount)

theorem count_raised (amount : Int) (declared : Declared) :
    (declared.raised amount).count = declared.count := by
  cases declared <;> simp [raised, count, ClassRecord.raised]

theorem function?_raised (amount : Int) (declared : Declared) :
    (declared.raised amount).function? =
      declared.function?.map (FunctionRecord.raised amount) := by
  cases declared <;> rfl

theorem class?_raised (amount : Int) (declared : Declared) :
    (declared.raised amount).class? = declared.class?.map (ClassRecord.raised amount) := by
  cases declared <;> rfl

end Declared

namespace SourceUnit

theorem functionRecord?_raised
    (unit : SourceUnit) (id amount : Int) (node signature : Node) :
    unit.functionRecord? (id + amount) node signature =
      (unit.functionRecord? id node signature).map (FunctionRecord.raised amount) := by
  unfold functionRecord?
  split <;> rfl

theorem methods_raised (unit : SourceUnit) (id amount : Int) (members : List Member) :
    unit.methods (id + amount) members =
      (unit.methods id members).map (FunctionRecord.raised amount) := by
  induction members generalizing id with
  | nil => rfl
  | cons member rest ih =>
      rw [methods, methods, functionRecord?_raised]
      cases unit.functionRecord? id member.node member.signature with
      | none => exact ih id
      | some record =>
          have hrest := ih (id + 1)
          rw [Int.add_right_comm] at hrest
          simp only [Option.map_some, List.map_cons, hrest]

theorem classRecord?_raised (unit : SourceUnit) (id amount : Int) (node : Node) :
    unit.classRecord? (id + amount) node =
      (unit.classRecord? id node).map (ClassRecord.raised amount) := by
  have hmethods := unit.methods_raised (id + 1) amount (unit.vocabulary.members node)
  rw [Int.add_right_comm] at hmethods
  unfold classRecord?
  split
  · rfl
  · simp only [Option.map_some, classRecord, ClassRecord.raised, hmethods]

theorem declared?_raised (unit : SourceUnit) (id amount : Int) (visit : Visit) :
    unit.declared? (id + amount) visit =
      (unit.declared? id visit).map (Declared.raised amount) := by
  cases visit with
  | function node signature =>
      simp only [declared?, functionRecord?_raised, Option.map_map]
      rfl
  | classLike node =>
      simp only [declared?, classRecord?_raised, Option.map_map]
      rfl

/-- A walk that numbers from further on gives the same records with higher numbers. -/
theorem declarationsOf_raised (unit : SourceUnit) (id amount : Int) (visits : List Visit) :
    unit.declarationsOf (id + amount) visits =
      (unit.declarationsOf id visits).map (Declared.raised amount) := by
  induction visits generalizing id with
  | nil => rfl
  | cons visit rest ih =>
      rw [declarationsOf, declarationsOf, declared?_raised]
      cases unit.declared? id visit with
      | none => exact ih id
      | some declared =>
          have hrest := ih (id + declared.count)
          rw [Int.add_right_comm] at hrest
          simp only [Option.map_some, List.map_cons, Declared.count_raised, hrest]

/-- Assembling with another counter changes the identifiers and nothing else. -/
theorem assemble_file_raised (unit : SourceUnit) (id amount : Int) (fileName : String) :
    (unit.assemble (id + amount)).file fileName =
      ((unit.assemble id).file fileName).raised amount := by
  have hdeclared := unit.declarationsOf_raised id amount (unit.vocabulary.visits unit.root)
  have hfunctions :
      (unit.assemble (id + amount)).functions =
        (unit.assemble id).functions.map (FunctionRecord.raised amount) := by
    simp only [Assembly.functions, declared_assemble, declarations, hdeclared, List.filterMap_map,
      List.map_filterMap, Function.comp_def, Declared.function?_raised]
  have hclasses :
      (unit.assemble (id + amount)).classes =
        (unit.assemble id).classes.map (ClassRecord.raised amount) := by
    simp only [Assembly.classes, declared_assemble, declarations, hdeclared, List.filterMap_map,
      List.map_filterMap, Function.comp_def, Declared.class?_raised]
  unfold Assembly.file FileRecord.raised
  rw [hfunctions, hclasses]

end SourceUnit

/-! ## Several files with one counter -/

/-- Each file is numbered from where the one before it ends. -/
def NumberedRun (first : Int) : List FileRecord → Prop
  | [] => True
  | file :: rest => file.NumberedFrom first ∧ NumberedRun (first + file.declarationCount) rest

def declarationTotal (files : List FileRecord) : Nat :=
  total (files.map FileRecord.declarationCount)

@[simp] theorem declarationTotal_nil : declarationTotal [] = 0 := rfl

@[simp] theorem declarationTotal_cons (file : FileRecord) (rest : List FileRecord) :
    declarationTotal (file :: rest) = file.declarationCount + declarationTotal rest := rfl

theorem declarationTotal_append (front back : List FileRecord) :
    declarationTotal (front ++ back) = declarationTotal front + declarationTotal back := by
  unfold declarationTotal
  rw [List.map_append, total_append]

namespace NumberedRun

variable {first : Int} {files : List FileRecord}

/-- The files of a run share the identifiers of the run among them. -/
theorem ids_perm (hrun : NumberedRun first files) :
    (files.flatMap FileRecord.ids).Perm (consecutive first (declarationTotal files)) := by
  induction files generalizing first with
  | nil => exact .refl _
  | cons file rest ih =>
      obtain ⟨hfile, hrest⟩ := hrun
      have hids := hfile.ids.append (ih hrest)
      rw [← consecutive_append] at hids
      exact hids

theorem ids_nodup (hrun : NumberedRun first files) :
    (files.flatMap FileRecord.ids).Nodup :=
  hrun.ids_perm.nodup_iff.mpr (consecutive_nodup _ _)

theorem numberedFrom_of_mem (hrun : NumberedRun first files)
    {file : FileRecord} (hfile : file ∈ files) : ∃ start, file.NumberedFrom start := by
  induction files generalizing first with
  | nil => contradiction
  | cons head rest ih =>
      obtain ⟨hhead, hrest⟩ := hrun
      rcases List.mem_cons.mp hfile with rfl | hfile
      · exact ⟨first, hhead⟩
      · exact ih hrest hfile

end NumberedRun

/-- What holds of the identifiers of files whose counter stands at `first` before
them and at `next` behind them. -/
structure DenseIds (first next : Int) (files : List FileRecord) : Prop where
  distinct : (files.flatMap FileRecord.ids).Nodup
  ids : (files.flatMap FileRecord.ids).Perm (consecutive first (declarationTotal files))
  next_eq : next = first + declarationTotal files
  functions : ∀ file ∈ files, (file.functions.map FunctionRecord.id).Pairwise (· < ·)
  classes : ∀ file ∈ files, (file.classes.map ClassRecord.id).Pairwise (· < ·)
  methods : ∀ file ∈ files, ∀ record ∈ file.classes,
    record.methods.map FunctionRecord.id = consecutive (record.id + 1) record.methods.length

/-- A numbered run uses each identifier from the first one on exactly once. -/
theorem NumberedRun.denseIds
    {first : Int} {files : List FileRecord} (hrun : NumberedRun first files) :
    DenseIds first (first + declarationTotal files) files := by
  refine ⟨hrun.ids_nodup, hrun.ids_perm, rfl, ?_, ?_, ?_⟩
  · intro file hfile
    obtain ⟨start, hnumbered⟩ := hrun.numberedFrom_of_mem hfile
    exact hnumbered.functions
  · intro file hfile
    obtain ⟨start, hnumbered⟩ := hrun.numberedFrom_of_mem hfile
    exact hnumbered.classes
  · intro file hfile
    obtain ⟨start, hnumbered⟩ := hrun.numberedFrom_of_mem hfile
    exact hnumbered.methods

def highestId (files : List FileRecord) : Int :=
  (files.flatMap FileRecord.ids).foldr max 0

theorem foldr_max_consecutive
    {first bound : Int} (hbound : first ≤ bound + 1) (count : Nat) :
    (consecutive first count).foldr max bound = max bound (first + count - 1) := by
  induction count generalizing bound with
  | zero =>
      rw [consecutive_zero, List.foldr_nil]
      omega
  | succ count ih =>
      rw [consecutive_append, List.foldr_append, consecutive_succ, consecutive_zero,
        List.foldr_cons, List.foldr_nil, ih (by omega)]
      omega

theorem NumberedRun.highestId_eq
    {files : List FileRecord} (hrun : NumberedRun 1 files) :
    highestId files = declarationTotal files := by
  unfold highestId
  rw [hrun.ids_perm.foldr_eq 0, foldr_max_consecutive (by omega)]
  omega

namespace SourceUnit

/-- Assembles units, each under the name of its file, one after the other with
one counter. -/
def assembleAll (id : Int) : List (String × SourceUnit) → List FileRecord × Int
  | [] => ([], id)
  | (fileName, unit) :: rest =>
      let assembly := unit.assemble id
      let (files, nextId) := assembleAll assembly.nextId rest
      (assembly.file fileName :: files, nextId)

theorem assembleAll_numbered (id : Int) (parts : List (String × SourceUnit)) :
    NumberedRun id (assembleAll id parts).1 ∧
      (assembleAll id parts).2 = id + declarationTotal (assembleAll id parts).1 := by
  induction parts generalizing id with
  | nil => simp [assembleAll, NumberedRun]
  | cons part rest ih =>
      obtain ⟨fileName, unit⟩ := part
      obtain ⟨hrun, hnext⟩ := ih (unit.assemble id).nextId
      have hnextId :
          (unit.assemble id).nextId =
            id + ((unit.assemble id).file fileName).declarationCount := by
        rw [unit.assemble_nextId, unit.file_declarationCount_eq_siteCount]
      simp only [assembleAll, NumberedRun, declarationTotal_cons]
      refine ⟨⟨unit.assemble_numbered id fileName, ?_⟩, ?_⟩
      · rw [← hnextId]
        exact hrun
      · rw [hnext]
        omega

theorem assembleAll_counts (id : Int) (parts : List (String × SourceUnit)) :
    (assembleAll id parts).1.map FileRecord.declarationCount =
      parts.map fun part => part.2.siteCount := by
  induction parts generalizing id with
  | nil => rfl
  | cons part rest ih =>
      simp only [assembleAll, List.map_cons, file_declarationCount_eq_siteCount, ih]

end SourceUnit
end SourceOutline
