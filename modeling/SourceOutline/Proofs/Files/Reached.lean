import SourceOutline.Proofs.Files.Scan
import Mathlib.Data.List.Nodup

/-!
# What a scan reaches

Names lead from a directory to a file through the directories between them.  A scan
reaches the file exactly if none of these directories is left out; the directory at which
it begins is not one of them.  The directories that it enters are that one and those to
which names lead that are not left out.  Nothing is said of the order of the entries.

Entries of one directory have different names, hence different names lead to different
files.
-/

namespace SourceOutline

/-! ## Ways to a file -/

/-- The names lead from a directory with these entries to an entry. -/
inductive Leads : List (String × Entry) → List String → Entry → Prop where
  | here {entries : List (String × Entry)} {name : String} {entry : Entry}
      (hentry : (name, entry) ∈ entries) : Leads entries [name] entry
  | inside {entries inner : List (String × Entry)} {name : String} {names : List String}
      {entry : Entry} (hentry : (name, .directory inner) ∈ entries)
      (hnames : Leads inner names entry) : Leads entries (name :: names) entry

def LeadsToFile (entries : List (String × Entry)) (names : List String) : Prop :=
  ∃ content, Leads entries names (.file content)

/-- A directory that is hidden, that belongs to a package manager, or that is named by the
caller. -/
def LeftOut (extra : List String) (name : String) : Prop :=
  ['.'] <+: name.toList ∨ name ∈ packageDirectories ∨ name ∈ extra

/-- A file that is not below a directory which is left out. -/
structure Reached (extra : List String) (entries : List (String × Entry))
    (names : List String) : Prop where
  file : LeadsToFile entries names
  entered : ∀ name ∈ names.dropLast, ¬ LeftOut extra name

def ReachedThrough (extra : List String) (first : String) (entry : Entry)
    (names : List String) : Prop :=
  (∃ content, entry = .file content ∧ names = [first]) ∨
    ∃ inner rest, entry = .directory inner ∧ names = first :: rest ∧
      ¬ LeftOut extra first ∧ Reached extra inner rest

variable {extra : List String} {entries : List (String × Entry)} {names : List String}

theorem isHidden_iff {name : String} : isHidden name ↔ ['.'] <+: name.toList := by
  unfold isHidden
  cases name.toList with
  | nil => simp
  | cons c rest => simpa using eq_comm

theorem isExcluded_iff {name : String} : isExcluded extra name ↔ LeftOut extra name := by
  unfold isExcluded LeftOut
  rw [Bool.or_eq_true, Bool.or_eq_true, isHidden_iff, List.contains_iff_mem,
    List.contains_iff_mem, or_assoc]

theorem Leads.ne_nil {entry : Entry} (hleads : Leads entries names entry) : names ≠ [] := by
  cases hleads <;> simp

theorem Leads.head_mem {entry : Entry} (hleads : Leads entries names entry) :
    ∀ name ∈ names.head?, name ∈ entries.map Prod.fst := by
  intro name hname
  cases hleads with
  | here hentry | inside hentry =>
      cases hname
      exact List.mem_map_of_mem hentry

theorem reached_iff :
    Reached extra entries names ↔
      ∃ first entry, (first, entry) ∈ entries ∧ ReachedThrough extra first entry names := by
  constructor
  · rintro ⟨⟨content, hleads⟩, hentered⟩
    cases hleads with
    | here hentry => exact ⟨_, _, hentry, .inl ⟨content, rfl, rfl⟩⟩
    | inside hentry hnames =>
        rw [List.dropLast_cons_of_ne_nil hnames.ne_nil, List.forall_mem_cons] at hentered
        exact ⟨_, _, hentry, .inr ⟨_, _, rfl, rfl, hentered.1, ⟨content, hnames⟩, hentered.2⟩⟩
  · rintro ⟨first, entry, hentry,
      ⟨content, rfl, rfl⟩ | ⟨inner, rest, rfl, rfl, hfirst, ⟨content, hrest⟩, hentered⟩⟩
    · exact ⟨⟨content, .here hentry⟩, by simp⟩
    · refine ⟨⟨content, .inside hentry hrest⟩, ?_⟩
      rw [List.dropLast_cons_of_ne_nil hrest.ne_nil, List.forall_mem_cons]
      exact ⟨hfirst, hentered⟩

mutual
theorem mem_reached_iff (extra : List String) (first : String) :
    (entry : Entry) → ∀ names,
      names ∈ entry.reached extra first ↔ ReachedThrough extra first entry names
  | .file content => by
      intro names
      simp [Entry.reached, ReachedThrough]
  | .directory entries => by
      intro names
      have hinside := mem_reachedAll_iff extra entries
      rw [Entry.reached]
      split
      next hexcluded =>
        have hleft := isExcluded_iff.mp hexcluded
        simp [ReachedThrough, hleft]
      next hkept =>
        have hentered : ¬ LeftOut extra first := fun h => hkept (isExcluded_iff.mpr h)
        simp only [List.mem_map, ReachedThrough, reduceCtorEq, false_and, exists_false, false_or,
          Entry.directory.injEq, hentered, not_false_eq_true, true_and]
        constructor
        · rintro ⟨rest, hrest, rfl⟩
          exact ⟨entries, rest, rfl, rfl, (hinside rest).mp hrest⟩
        · rintro ⟨inner, rest, rfl, rfl, hrest⟩
          exact ⟨rest, (hinside rest).mpr hrest, rfl⟩

/-- The recursion over entries reaches exactly what can be reached name by name. -/
theorem mem_reachedAll_iff (extra : List String) :
    (entries : List (String × Entry)) → ∀ names,
      names ∈ reachedAll extra entries ↔ Reached extra entries names
  | [] => by
      intro names
      rw [reached_iff]
      simp [reachedAll]
  | (first, entry) :: rest => by
      intro names
      have hfirst := mem_reached_iff extra first entry names
      have hothers := mem_reachedAll_iff extra rest names
      rw [reached_iff] at hothers ⊢
      rw [reachedAll, List.mem_append, hfirst, hothers]
      simp [or_and_right, exists_or]
end

/-! ## Directories on the way -/

/-- The names lead from a directory at which a scan begins to a directory that it
enters. -/
inductive Entered (extra : List String) : List (String × Entry) → List String → Prop where
  | top {entries : List (String × Entry)} : Entered extra entries []
  | inside {entries inner : List (String × Entry)} {name : String} {names : List String}
      (hentry : (name, .directory inner) ∈ entries) (hkept : ¬ LeftOut extra name)
      (hnames : Entered extra inner names) : Entered extra entries (name :: names)

def EnteredThrough (extra : List String) (first : String) (entry : Entry)
    (names : List String) : Prop :=
  ∃ inner rest, entry = .directory inner ∧ names = first :: rest ∧
    ¬ LeftOut extra first ∧ Entered extra inner rest

theorem entered_iff :
    Entered extra entries names ↔
      names = [] ∨
        ∃ first entry, (first, entry) ∈ entries ∧ EnteredThrough extra first entry names := by
  constructor
  · intro hentered
    cases hentered with
    | top => exact .inl rfl
    | inside hentry hkept hnames => exact .inr ⟨_, _, hentry, _, _, rfl, rfl, hkept, hnames⟩
  · rintro (rfl | ⟨first, entry, hentry, inner, rest, rfl, rfl, hkept, hnames⟩)
    · exact .top
    · exact .inside hentry hkept hnames

mutual
theorem mem_entered_iff (extra : List String) (first : String) :
    (entry : Entry) → ∀ names,
      names ∈ entry.entered extra first ↔ EnteredThrough extra first entry names
  | .file content => by
      intro names
      simp [Entry.entered, EnteredThrough]
  | .directory entries => by
      intro names
      have hinside := mem_enteredAll_iff extra entries
      rw [Entry.entered]
      split
      next hexcluded =>
        have hleft := isExcluded_iff.mp hexcluded
        simp [EnteredThrough, hleft]
      next hkept =>
        have hentered : ¬ LeftOut extra first := fun h => hkept (isExcluded_iff.mpr h)
        simp only [List.mem_cons, List.mem_map, EnteredThrough, Entry.directory.injEq, hentered,
          not_false_eq_true, true_and]
        constructor
        · rintro (rfl | ⟨rest, hrest, rfl⟩)
          · exact ⟨entries, [], rfl, rfl, .top⟩
          · exact ⟨entries, rest, rfl, rfl, entered_iff.mpr (.inr ((hinside rest).mp hrest))⟩
        · rintro ⟨inner, rest, rfl, rfl, hrest⟩
          rcases entered_iff.mp hrest with rfl | hbelow
          · exact .inl rfl
          · exact .inr ⟨rest, (hinside rest).mpr hbelow, rfl⟩

/-- The recursion over entries enters exactly the directories that can be entered. -/
theorem mem_enteredAll_iff (extra : List String) :
    (entries : List (String × Entry)) → ∀ names,
      names ∈ enteredAll extra entries ↔
        ∃ first entry, (first, entry) ∈ entries ∧ EnteredThrough extra first entry names
  | [] => by
      intro names
      simp [enteredAll]
  | (first, entry) :: rest => by
      intro names
      rw [enteredAll, List.mem_append, mem_entered_iff extra first entry names,
        mem_enteredAll_iff extra rest names]
      simp [or_and_right, exists_or]
end

theorem mem_entered_list_iff :
    names ∈ [] :: enteredAll extra entries ↔ Entered extra entries names := by
  rw [List.mem_cons, mem_enteredAll_iff, entered_iff]

/-! ## Different names for different files -/

mutual
/-- The entries of a directory have different names, and so do those of every directory
below it. -/
def Entry.Distinct : Entry → Prop
  | .file _ => True
  | .directory entries => DistinctNames entries

def DistinctNames : List (String × Entry) → Prop
  | [] => True
  | (name, entry) :: rest => name ∉ rest.map Prod.fst ∧ entry.Distinct ∧ DistinctNames rest
end

mutual
theorem reached_nodup (extra : List String) (first : String) :
    (entry : Entry) → entry.Distinct → (entry.reached extra first).Nodup
  | .file content => by
      intro _
      simp [Entry.reached]
  | .directory entries => by
      intro hdistinct
      rw [Entry.Distinct] at hdistinct
      rw [Entry.reached]
      split
      · exact List.nodup_nil
      · exact List.Nodup.map List.cons_injective (reachedAll_nodup extra entries hdistinct)

theorem reachedAll_nodup (extra : List String) :
    (entries : List (String × Entry)) → DistinctNames entries → (reachedAll extra entries).Nodup
  | [] => by
      intro _
      simp [reachedAll]
  | (first, entry) :: rest => by
      intro hdistinct
      rw [DistinctNames] at hdistinct
      obtain ⟨hnew, hentry, hrest⟩ := hdistinct
      rw [reachedAll, List.nodup_append]
      refine ⟨reached_nodup extra first entry hentry, reachedAll_nodup extra rest hrest, ?_⟩
      -- What the first entry leads to begins with its name, and no other entry has it.
      rintro names hnames others hothers rfl
      obtain ⟨content, hleads⟩ := ((mem_reachedAll_iff extra rest names).mp hothers).file
      have hhead : first ∈ names.head? := by
        rcases (mem_reached_iff extra first entry names).mp hnames with
          ⟨_, _, rfl⟩ | ⟨_, _, _, rfl, _⟩ <;> rfl
      exact hnew (hleads.head_mem first hhead)
end

end SourceOutline
