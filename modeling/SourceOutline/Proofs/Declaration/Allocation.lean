import SourceOutline.Declaration.Assemble

/-!
# The identifiers that records take

A unit is assembled with a counter.  Here the records are told as functions of the identifier
at which the counter stands, without the counter.  A record that is made takes as many
identifiers as it counts declarations, and a stop without a name takes none.  So the records of
the stops behind another begin where its own end, and assembling gives the same records and
leaves the counter behind the last one.
-/

namespace SourceOutline

namespace Allocation

variable {α β : Type} (id : Int)

theorem run_pure (value : α) : (pure value : Allocation α).run id = (value, id) :=
  rfl

theorem run_bind (first : Allocation α) (next : α → Allocation β) :
    (first >>= next).run id = (next (first.run id).1).run (first.run id).2 :=
  rfl

theorem run_allocateId : allocateId.run id = (id, id + 1) :=
  rfl

end Allocation

namespace SourceUnit

open Allocation

def functionRecord? (unit : SourceUnit) (id : Int) (node signature : Node) :
    Option FunctionRecord :=
  match unit.vocabulary.declaredName node unit.source with
  | [] => none
  | name => some (unit.functionRecord id name node signature)

def methods (unit : SourceUnit) (id : Int) : List Member → List FunctionRecord
  | [] => []
  | member :: rest =>
      match unit.functionRecord? id member.node member.signature with
      | some record => record :: unit.methods (id + 1) rest
      | none => unit.methods id rest

def classRecord? (unit : SourceUnit) (id : Int) (node : Node) : Option ClassRecord :=
  match unit.vocabulary.declaredName node unit.source with
  | [] => none
  | name =>
      some (unit.classRecord id name node (unit.methods (id + 1) (unit.vocabulary.members node)))

def declared? (unit : SourceUnit) (id : Int) : Visit → Option Declared
  | .function node signature => (unit.functionRecord? id node signature).map .function
  | .classLike node => (unit.classRecord? id node).map .classLike

/-- The records of the stops of a walk, numbered from `id` on. -/
def declarationsOf (unit : SourceUnit) (id : Int) : List Visit → List Declared
  | [] => []
  | visit :: rest =>
      match unit.declared? id visit with
      | some declared => declared :: unit.declarationsOf (id + declared.count) rest
      | none => unit.declarationsOf id rest

def declarations (unit : SourceUnit) (id : Int) : List Declared :=
  unit.declarationsOf id (unit.vocabulary.visits unit.root)

/-- How many identifiers a declaration takes if it is made. -/
def taken (declared : Option Declared) : Nat :=
  declared.elim 0 Declared.count

theorem run_buildFunction (unit : SourceUnit) (node signature : Node) (id : Int) :
    (unit.buildFunction node signature).run id =
      (unit.functionRecord? id node signature,
        if (unit.functionRecord? id node signature).isSome then id + 1 else id) := by
  unfold buildFunction functionRecord?
  cases unit.vocabulary.declaredName node unit.source <;> rfl

theorem run_buildMethods (unit : SourceUnit) (members : List Member) (id : Int) :
    (unit.buildMethods members).run id =
      (unit.methods id members, id + (unit.methods id members).length) := by
  induction members generalizing id with
  | nil => exact congrArg (Prod.mk []) (Int.add_zero id).symm
  | cons member rest ih =>
      simp only [buildMethods, run_bind, run_pure, run_buildFunction, ih, methods]
      cases unit.functionRecord? id member.node member.signature with
      | none => rfl
      | some record =>
          have hnext (count : Nat) : id + 1 + (count : Int) = id + (count + 1 : Nat) := by omega
          exact congrArg (Prod.mk _) (hnext _)

/-- A class takes its own identifier before those of its methods. -/
theorem run_buildClass (unit : SourceUnit) (node : Node) (id : Int) :
    (unit.buildClass node).run id =
      (unit.classRecord? id node, id + taken ((unit.classRecord? id node).map .classLike)) := by
  unfold buildClass classRecord?
  cases unit.vocabulary.declaredName node unit.source with
  | nil => exact congrArg (Prod.mk none) (Int.add_zero id).symm
  | cons first others =>
      have hnext (count : Nat) : id + 1 + (count : Int) = id + (1 + count : Nat) := by omega
      simp only [run_bind, run_pure, run_allocateId, run_buildMethods]
      exact congrArg (Prod.mk _) (hnext _)

theorem run_buildVisit (unit : SourceUnit) (visit : Visit) (id : Int) :
    (unit.buildVisit visit).run id =
      (unit.declared? id visit, id + taken (unit.declared? id visit)) := by
  cases visit with
  | function node signature =>
      simp only [buildVisit, run_bind, run_pure, run_buildFunction, declared?]
      cases unit.functionRecord? id node signature with
      | none => exact congrArg (Prod.mk none) (Int.add_zero id).symm
      | some record => rfl
  | classLike node => simp only [buildVisit, run_bind, run_pure, run_buildClass, declared?]

/-- A walk leaves the counter as many identifiers further as it has made declarations. -/
theorem run_buildVisits (unit : SourceUnit) (visits : List Visit) (id : Int) :
    (unit.buildVisits visits).run id =
      (unit.declarationsOf id visits,
        id + total ((unit.declarationsOf id visits).map Declared.count)) := by
  induction visits generalizing id with
  | nil => exact congrArg (Prod.mk []) (Int.add_zero id).symm
  | cons visit rest ih =>
      simp only [buildVisits, run_bind, run_pure, run_buildVisit, ih, declarationsOf]
      cases unit.declared? id visit with
      | none => simp [taken]
      | some declared =>
          have hnext (count others : Nat) :
              id + (count : Int) + others = id + (count + others : Nat) := by omega
          rw [List.map_cons, total_cons, ← hnext]
          rfl

/-- Assembling makes the records one after the other, and leaves the counter behind them. -/
theorem assemble_eq (unit : SourceUnit) (id : Int) :
    unit.assemble id =
      { declared := unit.declarations id
        nextId := id + total ((unit.declarations id).map Declared.count) } := by
  unfold assemble
  rw [run_buildVisits]
  rfl

theorem declared_assemble (unit : SourceUnit) (id : Int) :
    (unit.assemble id).declared = unit.declarations id := by
  rw [assemble_eq]

end SourceUnit
end SourceOutline
