import SourceOutline.Proofs.Files.Path
import Mathlib.Data.List.Lex
import Mathlib.Data.String.Basic

/-!
# The files that a scan comes to

The files below a directory are filtered by their extensions and sorted.  Paths below
one directory are told apart by their names, so sorting leaves no choice, and it makes
no difference whether files are left out before or after it.

In a store whose names are names that files can have, all these paths are proper and
can be asked for, and so their texts can be read back.
-/

namespace SourceOutline

/-! ## The order of paths -/

namespace Path

theorem namesBefore_iff (as bs : List String) : namesBefore as bs ↔ as ≤ bs := by
  rw [le_iff_lt_or_eq]
  induction as generalizing bs with
  | nil => cases bs <;> simp [namesBefore]
  | cons a as ih =>
      cases bs with
      | nil => simp [namesBefore]
      | cons b bs =>
          simp only [namesBefore, Bool.or_eq_true, decide_eq_true_eq, Bool.and_eq_true,
            beq_iff_eq, ih, List.cons_lt_cons_iff, List.cons.injEq]
          grind

theorem namesBefore_total (as bs : List String) :
    (namesBefore as bs || namesBefore bs as) = true := by
  rw [Bool.or_eq_true, namesBefore_iff, namesBefore_iff]
  exact le_total as bs

theorem namesBefore_trans
    {as bs cs : List String} (hab : namesBefore as bs = true) (hbc : namesBefore bs cs = true) :
    namesBefore as cs = true := by
  rw [namesBefore_iff] at hab hbc ⊢
  exact hab.trans hbc

theorem namesBefore_antisymm
    {as bs : List String} (hab : namesBefore as bs = true) (hba : namesBefore bs as = true) :
    as = bs := by
  rw [namesBefore_iff] at hab hba
  exact le_antisymm hab hba

theorem pairwise_mergeSort_before (paths : List Path) :
    (paths.mergeSort before).Pairwise fun a b => before a b := by
  apply List.pairwise_mergeSort
  · intro a b c hab hbc
    exact namesBefore_trans hab hbc
  · intro a b
    exact namesBefore_total a.names b.names

/-- Leaving out paths commutes with sorting them when they share their root. -/
theorem filter_mergeSort_before
    {root : String} {paths : List Path} (hroot : ∀ path ∈ paths, path.root = root)
    (keep : Path → Bool) :
    (paths.mergeSort before).filter keep = (paths.filter keep).mergeSort before := by
  have hperm :
      ((paths.mergeSort before).filter keep).Perm ((paths.filter keep).mergeSort before) :=
    ((List.mergeSort_perm paths before).filter keep).trans (List.mergeSort_perm _ before).symm
  refine hperm.eq_of_pairwise ?_ ((pairwise_mergeSort_before paths).filter keep)
    (pairwise_mergeSort_before _)
  rintro ⟨aRoot, aNames⟩ ⟨bRoot, bNames⟩ ha hb hab hba
  have hpath := hroot _ (List.mem_mergeSort.mp (List.mem_filter.mp ha).1)
  have hother := hroot _ (List.mem_filter.mp (List.mem_mergeSort.mp hb)).1
  obtain rfl : aRoot = root := hpath
  obtain rfl : bRoot = aRoot := hother
  rw [show aNames = bNames from namesBefore_antisymm hab hba]

end Path

/-! ## The names in a store -/

mutual
def Entry.names : Entry → List String
  | .file _ => []
  | .directory entries => Entry.namesAll entries

def Entry.namesAll : List (String × Entry) → List String
  | [] => []
  | (name, entry) :: rest => name :: (entry.names ++ Entry.namesAll rest)
end

namespace FileStore

/-- A name that a file or a directory can have. -/
def IsFileName (store : FileStore) (name : String) : Prop :=
  Path.IsName name ∧ store.pathFault? name = none

instance (store : FileStore) : DecidablePred store.IsFileName :=
  fun name => inferInstanceAs (Decidable (Path.IsName name ∧ store.pathFault? name = none))

def WellNamed (store : FileStore) : Prop :=
  ∀ name ∈ Entry.namesAll store.entries, store.IsFileName name

end FileStore

mutual
theorem Entry.mem_names_of_mem_reached (extra : List String) (first : String) :
    (entry : Entry) → ∀ names ∈ entry.reached extra first, ∀ name ∈ names,
      name = first ∨ name ∈ entry.names
  | .file content => by
      intro names hnames name hname
      rw [Entry.reached, List.mem_singleton] at hnames
      rw [hnames, List.mem_singleton] at hname
      exact .inl hname
  | .directory entries => by
      intro names hnames name hname
      rw [Entry.reached] at hnames
      split at hnames
      · contradiction
      · obtain ⟨others, hothers, rfl⟩ := List.mem_map.mp hnames
        rcases List.mem_cons.mp hname with rfl | hname
        · exact .inl rfl
        · rw [Entry.names]
          exact .inr (Entry.mem_namesAll_of_mem_reachedAll extra entries others hothers name hname)

theorem Entry.mem_namesAll_of_mem_reachedAll (extra : List String) :
    (entries : List (String × Entry)) → ∀ names ∈ reachedAll extra entries, ∀ name ∈ names,
      name ∈ Entry.namesAll entries
  | [] => by
      intro names hnames
      rw [reachedAll] at hnames
      contradiction
  | (first, entry) :: rest => by
      intro names hnames name hname
      rw [reachedAll, List.mem_append] at hnames
      rw [Entry.namesAll, List.mem_cons, List.mem_append]
      rcases hnames with hentry | hrest
      · rcases Entry.mem_names_of_mem_reached extra first entry names hentry name hname with
          hsame | hbelow
        · exact .inl hsame
        · exact .inr (.inl hbelow)
      · exact .inr (.inr
          (Entry.mem_namesAll_of_mem_reachedAll extra rest names hrest name hname))
end

theorem Entry.names_subset_of_lookup
    {entries : List (String × Entry)} {name : String} {entry : Entry}
    (hentry : entries.lookup name = some entry) : entry.names ⊆ Entry.namesAll entries := by
  induction entries with
  | nil => contradiction
  | cons first rest ih =>
      obtain ⟨firstName, firstEntry⟩ := first
      intro other hother
      rw [Entry.namesAll, List.mem_cons, List.mem_append]
      rw [List.lookup_cons] at hentry
      split at hentry
      · cases hentry
        exact .inr (.inl hother)
      · exact .inr (.inr (ih hentry hother))

namespace FileStore

/-- Following a path never leaves the tree. -/
theorem names_follow
    {P : String → Prop} {above : List Entry} {here : Entry} {names : List String} {entry : Entry}
    (habove : ∀ directory ∈ above, ∀ name ∈ directory.names, P name)
    (hhere : ∀ name ∈ here.names, P name) (hentry : follow above here names = .ok entry) :
    ∀ name ∈ entry.names, P name := by
  fun_induction follow above here names with
  | case1 above here =>
      cases hentry
      exact hhere
  | case2 => contradiction
  | case3 rest entries ih => exact ih habove hhere hentry
  | case4 rest entries parent above ih =>
      exact ih (fun other hother => habove other (List.mem_cons_of_mem parent hother))
        (habove parent List.mem_cons_self) hentry
  | case5 => contradiction
  | case6 => contradiction
  | case7 above name rest entries hdots hlength next hnext ih =>
      refine ih ?_ ?_ hentry
      · intro other hother
        rcases List.mem_cons.mp hother with rfl | hother
        · exact hhere
        · exact habove other hother
      · intro other hother
        exact hhere other (by
          rw [Entry.names]
          exact Entry.names_subset_of_lookup hnext hother)

theorem WellNamed.entry
    {store : FileStore} (hstore : store.WellNamed) {path : Path} {entry : Entry}
    (hentry : store.entry path = .ok entry) : ∀ name ∈ entry.names, store.IsFileName name := by
  unfold FileStore.entry at hentry
  split at hentry
  · contradiction
  · refine names_follow (by simp) ?_ hentry
    rw [Entry.names]
    exact hstore

/-! ## The files below a directory -/

/-- The files that a scan reaches, none when the directory cannot be scanned. -/
def filesReached (store : FileStore) (extra : List String) (directory : Path) : List Path :=
  match store.seen? directory with
  | .ok (some (.directory _)) => (store.filesBelow extra directory).toOption.getD []
  | _ => []

variable {store : FileStore} {extra : List String} {directory : Path}

/-- What a scan finds, as a list: nothing when it cannot be made. -/
theorem findFiles_eq (extensions : List String) :
    (match store.findFiles extra directory extensions with
      | .error _ => []
      | .ok files => files) =
      ((store.filesReached extra directory).filter fun file =>
        (extensions.map lowerCase).contains file.extension).mergeSort Path.before := by
  unfold findFiles filesReached
  match store.seen? directory with
  | .error fault => simp
  | .ok none => simp
  | .ok (some (.file content)) => simp
  | .ok (some (.directory entries)) =>
      cases store.filesBelow extra directory with
      | error fault => simp [Except.map, Except.toOption]
      | ok files => simp [Except.map, Except.toOption]

theorem filesBelow_of_mem
    {file : Path} (hfile : file ∈ store.filesReached extra directory) :
    store.filesBelow extra directory = .ok (store.filesReached extra directory) := by
  unfold filesReached at hfile ⊢
  split at hfile
  next entries hseen =>
    cases hbelow : store.filesBelow extra directory with
    | error fault =>
        rw [hbelow] at hfile
        exact absurd hfile List.not_mem_nil
    | ok files => rfl
  · exact absurd hfile List.not_mem_nil

/-- A scan that succeeds has listed every directory that it entered. -/
theorem filesBelow_cases {files : List Path} (hfiles : store.filesBelow extra directory = .ok files) :
    ∃ entries, store.entry directory = .ok (.directory entries) ∧
      store.firstFault? extra directory entries = none ∧
      files = (reachedAll extra entries).map directory.append := by
  unfold filesBelow at hfiles
  split at hfiles
  · contradiction
  · contradiction
  next entries hentry =>
    split at hfiles
    · contradiction
    next hfault => exact ⟨entries, hentry, hfault, (Except.ok.inj hfiles).symm⟩

/-- A file that is reached lies below the directory. -/
theorem append_of_mem_filesReached
    {file : Path} (hfile : file ∈ store.filesReached extra directory) :
    ∃ entries names, store.entry directory = .ok (.directory entries) ∧
      names ∈ reachedAll extra entries ∧ file = directory.append names := by
  obtain ⟨entries, hentry, _, hfiles⟩ := filesBelow_cases (filesBelow_of_mem hfile)
  rw [hfiles] at hfile
  obtain ⟨names, hnames, rfl⟩ := List.mem_map.mp hfile
  exact ⟨entries, names, hentry, hnames, rfl⟩

theorem root_of_mem_filesReached
    {file : Path} (hfile : file ∈ store.filesReached extra directory) :
    file.root = directory.root := by
  obtain ⟨_, names, _, _, rfl⟩ := append_of_mem_filesReached hfile
  rfl

/-- Whatever a scan reaches can be named. -/
theorem WellNamed.filesReached
    (hstore : store.WellNamed) (hdirectory : directory.Proper)
    (hnames : ∀ name ∈ directory.names, store.pathFault? name = none) {file : Path}
    (hfile : file ∈ store.filesReached extra directory) :
    file.Proper ∧ store.pathFault? file.text = none := by
  obtain ⟨entries, names, hentry, hreached, rfl⟩ := append_of_mem_filesReached hfile
  have hnew : ∀ name ∈ names, store.IsFileName name := by
    intro name hname
    refine hstore.entry hentry name ?_
    rw [Entry.names]
    exact Entry.mem_namesAll_of_mem_reachedAll extra entries names hreached name hname
  have hproper := hdirectory.append fun name hname => (hnew name hname).1
  refine ⟨hproper, pathFault?_text hproper ?_⟩
  intro name hname
  rcases List.mem_append.mp hname with hold | hadded
  · exact hnames name hold
  · exact (hnew name hadded).2

theorem mem_inOrder {texts : List String} {text : String} :
    text ∈ inOrder texts ↔ text ∈ texts := by
  unfold inOrder
  rw [List.mem_mergeSort, List.mem_eraseDups]

/-- Detection finds the extension of every file that has one. -/
theorem mem_of_detectExtensions
    {shown : String} {defaults found : List String} {events : List Event}
    (hfound : store.detectExtensions extra shown directory defaults = .ok (found, events))
    {file : Path} (hfile : file ∈ store.filesReached extra directory)
    (hextension : file.extension ≠ "") : file.extension ∈ found := by
  have hmem :
      file.extension ∈ inOrder
        (((store.filesReached extra directory).map Path.extension).filter (· != "")) := by
    rw [mem_inOrder, List.mem_filter]
    exact ⟨List.mem_map_of_mem hfile, by simpa using hextension⟩
  unfold detectExtensions at hfound
  rw [filesBelow_of_mem hfile] at hfound
  simp only at hfound
  split at hfound
  · cases hfound
  · split at hfound
    next hempty =>
      rw [hempty] at hmem
      exact absurd hmem List.not_mem_nil
    next =>
      simp only [Except.ok.injEq, Prod.mk.injEq] at hfound
      rw [← hfound.1]
      exact hmem

end FileStore
end SourceOutline
