import SourceOutline.Proofs.Dependency.Edges
import SourceOutline.Proofs.Dependency.Place
import Mathlib.Data.Finset.Dedup

/-!
# What a function depends on

A name is called in a text where it stands with no part of a name in front of it and an
opening parenthesis behind it, perhaps after blanks.  Whether one function depends on
another is a question about these two and the text: where the first is declared, how far
its body reaches, and whether the name of the second is called there.

The other functions of the list have no part in the answer.  So the order of the list does
not matter, and a further function leaves the others what they had.
-/

namespace SourceOutline
namespace Form

/-! ## Calls -/

/-- The name stands somewhere in a text, not as the end of a longer name, and an opening
parenthesis follows. -/
def Calls (name body : List Char) : Prop :=
  ∃ front gap rest : List Char, body = front ++ name ++ gap ++ '(' :: rest ∧
    NameBegins front ∧ Blank gap

theorem literal_call_iff {name text : List Char} :
    literal name (blanks (startsWith '(')) text ↔
      ∃ gap rest : List Char, text = name ++ gap ++ '(' :: rest ∧ Blank gap := by
  simp only [literal_iff, blanks_iff, startsWith_iff]
  constructor
  · rintro ⟨_, rfl, gap, _, rfl, hgap, rest, rfl⟩
    exact ⟨gap, rest, by simp, hgap⟩
  · rintro ⟨gap, rest, rfl, hgap⟩
    exact ⟨_, by simp, gap, _, rfl, hgap, rest, rfl⟩

/-- A name is called where it begins a word and an opening parenthesis follows it, blanks aside.
-/
theorem calledFrom_iff (name before text : List Char) :
    calledFrom name before.getLast? text ↔
      ∃ front gap rest : List Char, text = front ++ name ++ gap ++ '(' :: rest ∧
        NameBegins (before ++ front) ∧ Blank gap := by
  -- What lies in front grows along the text, for it decides whether the name begins there.
  induction text generalizing before with
  | nil => simp [calledFrom]
  | cons c text ih =>
      have hlater := ih (before ++ [c])
      rw [List.getLast?_concat] at hlater
      rw [calledFrom, Bool.or_eq_true, Bool.and_eq_true, nameMayFollow_iff, literal_call_iff,
        hlater]
      constructor
      · rintro (⟨hbegins, gap, rest, htext, hgap⟩ | ⟨front, gap, rest, rfl, hbegins, hgap⟩)
        · exact ⟨[], gap, rest, htext, by simpa using hbegins, hgap⟩
        · exact ⟨c :: front, gap, rest, rfl, by simpa using hbegins, hgap⟩
      · rintro ⟨front, gap, rest, htext, hbegins, hgap⟩
        cases front with
        | nil => exact .inl ⟨by simpa using hbegins, gap, rest, htext, hgap⟩
        | cons d front =>
            obtain ⟨rfl, rfl⟩ := List.cons_eq_cons.mp htext
            exact .inr ⟨front, gap, rest, rfl, by simpa using hbegins, hgap⟩

theorem called_iff (name body : List Char) : called name body ↔ Calls name body :=
  calledFrom_iff name [] body

end Form

namespace Dependency

/-! ## One function and another -/

/-- In the text of its body the caller calls the callee, which has another name. -/
structure DependsOn (text : List Char) (caller callee : FunctionRecord) : Prop where
  otherName : callee.name ≠ caller.name
  calls : ∃ place, DeclaredAt text caller place ∧
    Form.Calls callee.name.toList ((Body.span text place).text text)

variable {functions : List FunctionRecord}

theorem calledName_of_mem
    (hdistinct : (functions.map FunctionRecord.id).Nodup) {function : FunctionRecord}
    (hmem : function ∈ functions) : calledName functions function.id = function.name.toList := by
  have hlast := lastWith?_of_mem hdistinct hmem
  unfold lastWith? at hlast
  rw [calledName, hlast, Option.elim_some]

/-- Among the callees of a function are exactly the others on which it depends. -/
theorem mem_calleesIn_iff
    (hdistinct : (functions.map FunctionRecord.id).Nodup) (text : List Char)
    {caller : FunctionRecord} (hcaller : caller ∈ functions) (id : Int) :
    id ∈ calleesIn functions text caller ↔
      ∃ callee ∈ functions, callee.id = id ∧ DependsOn text caller callee := by
  -- Another name belongs to another function, so the test of the identifiers adds nothing.
  have hother {callee : FunctionRecord} (hcallee : callee ∈ functions)
      (hname : callee.name ≠ caller.name) : callee.id ≠ caller.id := by
    intro hid
    rw [List.inj_on_of_nodup_map hdistinct hcallee hcaller hid] at hname
    exact hname rfl
  unfold calleesIn callees
  cases hplace : declarationOf? text (lineStarts text) caller with
  | none =>
      simp only [List.not_mem_nil, false_iff]
      rintro ⟨callee, _, _, _, place, hdeclared, _⟩
      rw [← declarationOf?_eq_some_iff, hplace] at hdeclared
      contradiction
  | some place =>
      have hdeclared (other : Nat) : DeclaredAt text caller other ↔ place = other := by
        rw [← declarationOf?_eq_some_iff, hplace, Option.some.injEq]
      simp only [List.mem_map, List.mem_filter, Bool.and_eq_true, bne_iff_ne, Form.called_iff]
      constructor
      · rintro ⟨_, ⟨⟨callee, hcallee, rfl⟩, ⟨_, hname⟩, hcalls⟩, hid⟩
        rw [calledName_of_mem hdistinct hcallee] at hcalls
        exact ⟨callee, hcallee, hid, hname, place, (hdeclared place).mpr rfl, hcalls⟩
      · rintro ⟨callee, hcallee, hid, hname, found, hfound, hcalls⟩
        obtain rfl := (hdeclared found).mp hfound
        refine ⟨_, ⟨⟨callee, hcallee, rfl⟩, ⟨hother hcallee hname, hname⟩, ?_⟩, hid⟩
        rw [calledName_of_mem hdistinct hcallee]
        exact hcalls

/-! ## All functions of a list -/

theorem map_fst_foldl_put
    (edges : FunctionRecord → List Int) (hdistinct : (functions.map FunctionRecord.id).Nodup) :
    (functions.foldl (fun result function => put result function.id (edges function))
        []).map Prod.fst =
      functions.map FunctionRecord.id := by
  induction functions using List.reverseRecOn with
  | nil => rfl
  | append_singleton front last ih =>
      rw [List.map_append, List.map_singleton] at hdistinct ⊢
      obtain ⟨hfront, _, hapart⟩ := List.nodup_append'.mp hdistinct
      have hkeys := ih hfront
      rw [List.foldl_append, List.foldl_cons, List.foldl_nil, put_eq_putBy, putBy_of_new,
        List.map_append, hkeys, List.map_singleton]
      intro entry hentry hsame
      have hold : entry.1 ∈ front.map FunctionRecord.id := by
        rw [← hkeys]
        exact List.mem_map_of_mem hentry
      rw [beq_iff_eq.mp hsame] at hold
      exact hapart hold (List.mem_singleton_self _)

theorem keys_infer
    (hdistinct : (functions.map FunctionRecord.id).Nodup) (text : List Char) :
    (infer functions text).map Prod.fst = functions.map FunctionRecord.id :=
  map_fst_foldl_put _ hdistinct

/-- The identifiers on which an identifier depends, whatever their order. -/
def targets (functions : List FunctionRecord) (text : List Char) (id : Int) :
    Option (Finset Int) :=
  ((infer functions text).lookup id).map List.toFinset

theorem targets_of_mem
    (hdistinct : (functions.map FunctionRecord.id).Nodup) (text : List Char)
    {caller : FunctionRecord} (hcaller : caller ∈ functions) :
    ∃ ids, targets functions text caller.id = some ids ∧
      ∀ id, id ∈ ids ↔ ∃ callee ∈ functions, callee.id = id ∧ DependsOn text caller callee := by
  unfold targets
  rw [lookup_infer hdistinct text hcaller, Option.map_some]
  refine ⟨_, rfl, ?_⟩
  intro id
  rw [List.mem_toFinset, mem_calleesIn_iff hdistinct text hcaller]

theorem targets_of_not_mem
    {id : Int} (habsent : id ∉ functions.map FunctionRecord.id) (text : List Char) :
    targets functions text id = none := by
  have hlast : lastWith? functions id = none := by
    unfold lastWith?
    rw [List.find?_eq_none]
    intro function hmem hid
    rw [← beq_iff_eq.mp hid] at habsent
    exact habsent (List.mem_map_of_mem (List.mem_reverse.mp hmem))
  have hentry := lookup_foldl_put (calleesIn functions text) functions id
  rw [hlast, Option.map_none] at hentry
  unfold targets
  rw [Option.map_eq_none_iff]
  exact hentry

/-- The order in which functions are listed decides nothing. -/
theorem targets_perm
    {others : List FunctionRecord} (hperm : others.Perm functions)
    (hdistinct : (functions.map FunctionRecord.id).Nodup) (text : List Char) :
    targets others text = targets functions text := by
  have hids := hperm.map FunctionRecord.id
  funext id
  by_cases hid : id ∈ functions.map FunctionRecord.id
  · obtain ⟨caller, hcaller, rfl⟩ := List.mem_map.mp hid
    obtain ⟨ids, hfound, hmem⟩ := targets_of_mem hdistinct text hcaller
    obtain ⟨otherIds, hotherFound, hotherMem⟩ :=
      targets_of_mem (hids.nodup_iff.mpr hdistinct) text (hperm.mem_iff.mpr hcaller)
    have hsame : otherIds = ids := by
      ext id
      simp only [hmem, hotherMem, hperm.mem_iff]
    rw [hfound, hotherFound, hsame]
  · have hother := mt hids.mem_iff.mp hid
    rw [targets_of_not_mem hid, targets_of_not_mem hother]

/-- A further function can add itself to a list of dependencies and changes nothing else about
them. -/
theorem targets_insert
    {front back : List FunctionRecord} {added : FunctionRecord}
    (hdistinct : ((front ++ added :: back).map FunctionRecord.id).Nodup) (text : List Char)
    {caller : FunctionRecord} (hcaller : caller ∈ front ++ back) :
    ∃ ids more, targets (front ++ back) text caller.id = some ids ∧
      targets (front ++ added :: back) text caller.id = some more ∧
      ∀ id, id ∈ more ↔ id ∈ ids ∨ id = added.id ∧ DependsOn text caller added := by
  have hmiddle : (front ++ added :: back).Perm (added :: (front ++ back)) := List.perm_middle
  have hfewer : ((front ++ back).map FunctionRecord.id).Nodup :=
    ((hmiddle.map _).nodup_iff.mp hdistinct).of_cons
  have hstill : caller ∈ front ++ added :: back :=
    hmiddle.mem_iff.mpr (List.mem_cons_of_mem added hcaller)
  obtain ⟨ids, hfound, hmem⟩ := targets_of_mem hfewer text hcaller
  obtain ⟨more, hmore, hmoreMem⟩ := targets_of_mem hdistinct text hstill
  refine ⟨ids, more, hfound, hmore, ?_⟩
  intro id
  simp only [hmem, hmoreMem, hmiddle.mem_iff, List.mem_cons]
  constructor
  · rintro ⟨callee, rfl | hcallee, rfl, hdepends⟩
    · exact .inr ⟨rfl, hdepends⟩
    · exact .inl ⟨callee, hcallee, rfl, hdepends⟩
  · rintro (⟨callee, hcallee, rfl, hdepends⟩ | ⟨rfl, hdepends⟩)
    · exact ⟨callee, .inr hcallee, rfl, hdepends⟩
    · exact ⟨added, .inl rfl, rfl, hdepends⟩

/-- Every function of a list has its entry, and the entry holds the functions of the list
that it depends on.  The order of the list does not change the entries, and a further
function adds at most itself to the entry of another. -/
theorem infer_iff_dependsOn
    (functions : List FunctionRecord) (text : List Char)
    (hdistinct : (functions.map FunctionRecord.id).Nodup) :
    (infer functions text).map Prod.fst = functions.map FunctionRecord.id ∧
    (∀ caller ∈ functions, ∃ ids, targets functions text caller.id = some ids ∧
      (∀ callee ∈ functions, callee.id ∈ ids ↔ DependsOn text caller callee) ∧
      ∀ id ∈ ids, id ∈ functions.map FunctionRecord.id) ∧
    (∀ others, others.Perm functions → targets others text = targets functions text) ∧
    (∀ front back added, functions = front ++ back →
      added.id ∉ functions.map FunctionRecord.id → ∀ caller ∈ functions,
        ∃ ids more, targets functions text caller.id = some ids ∧
          targets (front ++ added :: back) text caller.id = some more ∧
          ∀ id, id ∈ more ↔ id ∈ ids ∨ id = added.id ∧ DependsOn text caller added) := by
  refine ⟨keys_infer hdistinct text, ?_, ?_, ?_⟩
  · intro caller hcaller
    obtain ⟨ids, hfound, hmem⟩ := targets_of_mem hdistinct text hcaller
    refine ⟨ids, hfound, ?_, ?_⟩
    · intro callee hcallee
      rw [hmem]
      constructor
      · rintro ⟨other, hother, hid, hdepends⟩
        rwa [← List.inj_on_of_nodup_map hdistinct hother hcallee hid]
      · intro hdepends
        exact ⟨callee, hcallee, rfl, hdepends⟩
    · intro id hid
      obtain ⟨callee, hcallee, rfl, _⟩ := (hmem id).mp hid
      exact List.mem_map_of_mem hcallee
  · intro others hperm
    exact targets_perm hperm hdistinct text
  · rintro front back added rfl hnew caller hcaller
    have hmiddle : (front ++ added :: back).Perm (added :: (front ++ back)) := List.perm_middle
    have hmore : ((front ++ added :: back).map FunctionRecord.id).Nodup :=
      (hmiddle.map _).nodup_iff.mpr (List.nodup_cons.mpr ⟨hnew, hdistinct⟩)
    exact targets_insert hmore text hcaller

/-- One of two functions calls the other, with a blank in front of the parenthesis. -/
theorem infer_iff_dependsOn_total :
    let text := "function add(a) { return a; }\nfunction total(a) { return add (a); }".toList
    let add : FunctionRecord := { id := 1, name := "add", line := 1 }
    let total : FunctionRecord := { id := 2, name := "total", line := 2 }
    ([add, total].map FunctionRecord.id).Nodup ∧
      infer [add, total] text = [(1, []), (2, [1])] ∧
      DependsOn text total add ∧ ¬ DependsOn text add total ∧
      targets [total, add] text = targets [add, total] text := by
  intro text add total
  have hdistinct : ([add, total].map FunctionRecord.id).Nodup := by decide
  have hinfer : infer [add, total] text = [(1, []), (2, [1])] := by decide +kernel
  obtain ⟨_, hentries, horder, _⟩ := infer_iff_dependsOn [add, total] text hdistinct
  have hadd : targets [add, total] text 1 = some ∅ := by
    rw [targets, hinfer]
    rfl
  have htotal : targets [add, total] text 2 = some {1} := by
    rw [targets, hinfer]
    rfl
  obtain ⟨addIds, haddIds, haddMem, _⟩ := hentries add (by simp)
  obtain ⟨totalIds, htotalIds, htotalMem, _⟩ := hentries total (by simp)
  obtain rfl := Option.some.inj (hadd.symm.trans haddIds)
  obtain rfl := Option.some.inj (htotal.symm.trans htotalIds)
  refine ⟨hdistinct, hinfer, ?_, ?_, horder _ (.swap add total [])⟩
  · exact (htotalMem add (by simp)).mp (Finset.mem_singleton_self 1)
  · intro hdepends
    exact absurd ((haddMem total (by simp)).mpr hdepends) (Finset.notMem_empty _)

end Dependency
end SourceOutline
