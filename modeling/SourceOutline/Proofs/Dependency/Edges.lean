import SourceOutline.Dependency.Infer
import SourceOutline.Proofs.Data.Put
import SourceOutline.Proofs.Declaration.Numbering
import Mathlib.Data.List.Induction
import Mathlib.Data.List.Nodup

/-!
# Where dependencies lead

What a function depends on is told by identifiers alone, and the identifiers are
looked up again when the functions of a file are listed.  Both steps are sound
because no identifier of a file comes twice: the entry found for a function is
its own, and an identifier among its dependencies belongs to one function or
method of the same file and to no class.  Without a text there are no entries, and
then there are no dependencies either.
-/

namespace SourceOutline
namespace Dependency

theorem put_eq_putBy (result : List (Int × List Int)) (id : Int) (ids : List Int) :
    put result id ids = putBy (· == ·) result id ids := by
  induction result with
  | nil => rfl
  | cons entry rest ih =>
      rw [put, putBy, ih]
      by_cases hid : entry.1 = id
      · simp [hid]
      · simp [hid]

theorem lookup_put (result : List (Int × List Int)) (id other : Int) (ids : List Int) :
    (put result id ids).lookup other =
      if other = id then some ids else result.lookup other := by
  rw [put_eq_putBy]
  exact lookup_putBy result id other ids

def lastWith? (functions : List FunctionRecord) (id : Int) : Option FunctionRecord :=
  functions.reverse.find? (·.id == id)

theorem lookup_foldl_put
    (edges : FunctionRecord → List Int) (functions : List FunctionRecord) (id : Int) :
    (functions.foldl (fun result function => put result function.id (edges function))
        []).lookup id =
      (lastWith? functions id).map edges := by
  induction functions using List.reverseRecOn with
  | nil => rfl
  | append_singleton front last ih =>
      rw [List.foldl_append, List.foldl_cons, List.foldl_nil, lookup_put, ih]
      unfold lastWith?
      rw [List.reverse_append, List.reverse_singleton, List.singleton_append, List.find?_cons]
      by_cases hlast : id = last.id
      · simp [hlast]
      · simp [hlast, beq_false_of_ne (Ne.symm hlast)]

theorem lastWith?_of_mem
    {functions : List FunctionRecord} (hdistinct : (functions.map FunctionRecord.id).Nodup)
    {function : FunctionRecord} (hmem : function ∈ functions) :
    lastWith? functions function.id = some function := by
  cases hfound : lastWith? functions function.id with
  | none =>
      have hnone := List.find?_eq_none.mp hfound function (List.mem_reverse.mpr hmem)
      simp at hnone
  | some found =>
      have hid : found.id = function.id := by
        simpa using List.find?_some hfound
      have hfoundMem := List.mem_reverse.mp (List.mem_of_find?_eq_some hfound)
      rw [List.inj_on_of_nodup_map hdistinct hfoundMem hmem hid]

def calleesIn (functions : List FunctionRecord) (text : List Char)
    (function : FunctionRecord) : List Int :=
  callees text (lineStarts text)
    (functions.map fun other => (other, calledName functions other.id)) function

theorem lookup_infer
    {functions : List FunctionRecord} (hdistinct : (functions.map FunctionRecord.id).Nodup)
    (text : List Char) {function : FunctionRecord} (hmem : function ∈ functions) :
    (infer functions text).lookup function.id = some (calleesIn functions text function) := by
  have hentry :=
    lookup_foldl_put (calleesIn functions text) functions function.id
  rw [lastWith?_of_mem hdistinct hmem] at hentry
  exact hentry

theorem mem_calleesIn
    {functions : List FunctionRecord} {text : List Char} {function : FunctionRecord} {id : Int}
    (hmem : id ∈ calleesIn functions text function) :
    ∃ callee ∈ functions,
      callee.id = id ∧ callee.id ≠ function.id ∧ callee.name ≠ function.name := by
  unfold calleesIn callees at hmem
  cases hplace : declarationOf? text (lineStarts text) function with
  | none => simp [hplace] at hmem
  | some place =>
      rw [hplace] at hmem
      obtain ⟨other, hother, hid⟩ := List.mem_map.mp hmem
      obtain ⟨hlisted, hcalled⟩ := List.mem_filter.mp hother
      obtain ⟨callee, hcallee, rfl⟩ := List.mem_map.mp hlisted
      simp only [Bool.and_eq_true, bne_iff_ne] at hcalled
      exact ⟨callee, hcallee, hid, hcalled.1.1, hcalled.1.2⟩

end Dependency

namespace FileRecord

/-! ## The functions of a file, listed flat -/

theorem ids_perm_functions (file : FileRecord) :
    file.ids.Perm
      (file.allFunctions.map FunctionRecord.id ++ file.classes.map ClassRecord.id) := by
  have hclasses :
      (file.classes.flatMap ClassRecord.ids).Perm
        ((file.classes.flatMap ClassRecord.methods).map FunctionRecord.id ++
          file.classes.map ClassRecord.id) := by
    induction file.classes with
    | nil => exact .refl _
    | cons record rest ih =>
        simp only [List.flatMap_cons, List.map_append, List.map_cons, ClassRecord.ids]
        refine ((ih.append_left _).cons record.id).trans ?_
        rw [← List.append_assoc]
        exact List.perm_middle.symm
  unfold ids allFunctions
  rw [List.map_append, List.append_assoc]
  exact hclasses.append_left _

/-- An identifier that a function may depend on: that of another function of its
file, with another name, and of no class. -/
structure Edge (file : FileRecord) (function : FunctionRecord) (id : Int) : Prop where
  callee : ∃ callee ∈ file.allFunctions, callee.id = id ∧ callee.name ≠ function.name
  other : id ≠ function.id
  noClass : ∀ record ∈ file.classes, record.id ≠ id

/-- A function as a flat listing of its file tells it. -/
structure Flattened (file : FileRecord) (function flat : FunctionRecord) : Prop where
  id : flat.id = function.id
  name : flat.name = function.name
  line : flat.line = function.line
  parameters : flat.parameters = function.parameters
  returnType : flat.returnType = function.returnType
  fileName : flat.fileName = some file.fileName
  dependsOn : ∃ ids, flat.dependsOn = some ids ∧ ∀ id ∈ ids, file.Edge function id

theorem edge_of_mem_calleesIn
    {file : FileRecord} (hdistinct : file.ids.Nodup) {text : List Char}
    {function : FunctionRecord} {id : Int}
    (hmem : id ∈ Dependency.calleesIn file.allFunctions text function) :
    file.Edge function id := by
  obtain ⟨callee, hcallee, rfl, hother, hname⟩ := Dependency.mem_calleesIn hmem
  have hparts := file.ids_perm_functions.nodup_iff.mp hdistinct
  refine ⟨⟨callee, hcallee, rfl, hname⟩, hother, ?_⟩
  intro record hrecord hid
  have hfunction : callee.id ∈ file.allFunctions.map FunctionRecord.id :=
    List.mem_map_of_mem hcallee
  have hclass : callee.id ∈ file.classes.map ClassRecord.id := by
    rw [← hid]
    exact List.mem_map_of_mem hrecord
  exact (List.nodup_append'.mp hparts).2.2 hfunction hclass

/-- Whatever a function of a file depends on is another function or method of that file. -/
theorem edge_of_mem_dependencies
    {file : FileRecord} (hdistinct : file.ids.Nodup) (text : Option (List Char))
    {function : FunctionRecord} (hfunction : function ∈ file.allFunctions) {id : Int}
    (hmem : id ∈ ((text.elim [] (Dependency.infer file.allFunctions)).lookup
      function.id).getD []) :
    file.Edge function id := by
  cases text with
  | none => simp at hmem
  | some text =>
      have hfunctions : (file.allFunctions.map FunctionRecord.id).Nodup :=
        (List.nodup_append'.mp (file.ids_perm_functions.nodup_iff.mp hdistinct)).1
      rw [Option.elim_some, Dependency.lookup_infer hfunctions text hfunction,
        Option.getD_some] at hmem
      exact edge_of_mem_calleesIn hdistinct hmem

/-- A flat listing tells the functions of a file and the methods of its classes,
one by one and in order. -/
theorem flatten_flattened
    (file : FileRecord) (hdistinct : file.ids.Nodup) (text : Option (List Char)) :
    List.Forall₂ file.Flattened file.allFunctions (file.flatten text) := by
  unfold flatten
  rw [List.forall₂_map_right_iff, List.forall₂_same]
  intro function hfunction
  refine ⟨rfl, rfl, rfl, rfl, rfl, rfl, _, rfl, ?_⟩
  intro id hid
  exact edge_of_mem_dependencies hdistinct text hfunction hid

end FileRecord
end SourceOutline
