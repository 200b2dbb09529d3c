import SourceOutline.Proofs.Files.Reached
import Mathlib.Data.List.Sort

/-!
# What a scan finds

If every directory that a scan enters can be listed, the scan finds the files that it
reaches, and the order in which directories list their entries does not show: a list that
is sorted without repetition is determined by its elements.

Otherwise it finds nothing.  The directories are entered in the order of their paths, so
the fault that is told is that of the least directory which cannot be listed.
-/

namespace SourceOutline

variable {extra : List String} {entries : List (String × Entry)} {names : List String}

/-! ## Sorting -/

theorem nodup_eraseDups {α : Type} [BEq α] [LawfulBEq α] (items : List α) :
    items.eraseDups.Nodup := by
  match items with
  | [] => exact List.nodup_nil
  | first :: rest =>
      rw [List.eraseDups_cons, List.nodup_cons, List.mem_eraseDups]
      exact ⟨by simp, nodup_eraseDups _⟩
termination_by items.length
decreasing_by
  exact Nat.lt_succ_of_le (List.length_filter_le _ rest)

/-- The order of paths below one directory: name by name. -/
def Path.Earlier (a b : Path) : Prop :=
  a.names < b.names

instance : Std.Irrefl Path.Earlier :=
  ⟨fun path => List.lt_irrefl path.names⟩

instance : Std.Antisymm Path.Earlier :=
  ⟨fun _ _ hab hba => absurd hba (List.lt_asymm hab)⟩

theorem Path.pairwise_earlier
    {root : String} {paths : List Path} (hroot : ∀ path ∈ paths, path.root = root)
    (hdistinct : paths.Nodup) : (paths.mergeSort before).Pairwise Path.Earlier := by
  have hdifferent : (paths.mergeSort before).Nodup :=
    (List.mergeSort_perm paths before).nodup_iff.mpr hdistinct
  refine ((pairwise_mergeSort_before paths).and hdifferent).imp_of_mem ?_
  rintro ⟨aRoot, aNames⟩ ⟨bRoot, bNames⟩ ha hb ⟨hbefore, hne⟩
  obtain rfl : aRoot = root := hroot _ (List.mem_mergeSort.mp ha)
  obtain rfl : bRoot = aRoot := hroot _ (List.mem_mergeSort.mp hb)
  have hle : aNames ≤ bNames := (namesBefore_iff aNames bNames).mp hbefore
  have hother : aNames ≠ bNames := by
    rintro rfl
    exact hne rfl
  exact lt_of_le_of_ne hle hother

theorem FileStore.pairwise_inOrder (texts : List String) :
    (inOrder texts).Pairwise (· < ·) := by
  have hsorted : (inOrder texts).Pairwise (· ≤ ·) := List.pairwise_mergeSort' (· ≤ ·) _
  have hdifferent : (inOrder texts).Nodup :=
    (List.mergeSort_perm _ _).nodup_iff.mpr (nodup_eraseDups texts)
  apply (hsorted.and hdifferent).imp
  rintro a b ⟨hle, hne⟩
  exact lt_of_le_of_ne hle hne

/-! ## The files of a scan -/

/-- A file to which a scan of the directory comes. -/
def ScanReaches (extra : List String) (entries : List (String × Entry)) (directory file : Path) :
    Prop :=
  ∃ names, Reached extra entries names ∧ file = directory.append names

/-- The suffix, in lower case, of a file to which a scan comes. -/
def ScanMeets (extra : List String) (entries : List (String × Entry)) (directory : Path)
    (extension : String) : Prop :=
  ∃ file, ScanReaches extra entries directory file ∧ file.suffix ≠ "" ∧
    lowerCase file.suffix = extension

theorem lowerCase_eq_empty {text : String} : lowerCase text = "" ↔ text = "" := by
  have hchar (c : Char) : Text.lowerChar c ≠ [] := by
    unfold Text.lowerChar
    grind
  unfold lowerCase Text.lower
  rw [String.ofList_eq_empty_iff]
  cases hchars : text.toList with
  | nil => simpa [Text.lowerAfter] using hchars
  | cons c rest =>
      have hne : text ≠ "" := by
        rintro rfl
        simp at hchars
      rw [Text.lowerAfter]
      split <;> simp [hne, hchar]

theorem Reached.iff_of_leads
    {listed : List (String × Entry)}
    (hsame : ∀ names, LeadsToFile listed names ↔ LeadsToFile entries names) :
    Reached extra listed names ↔ Reached extra entries names :=
  ⟨fun h => ⟨(hsame names).mp h.file, h.entered⟩, fun h => ⟨(hsame names).mpr h.file, h.entered⟩⟩

namespace FileStore

variable {store : FileStore} {directory : Path}

theorem mem_map_append_reachedAll {file : Path} :
    file ∈ (reachedAll extra entries).map directory.append ↔
      ScanReaches extra entries directory file := by
  unfold ScanReaches
  simp only [List.mem_map, mem_reachedAll_iff, eq_comm]

/-! ## Listing directories -/

/-- Every directory that a scan enters can be listed. -/
def Listable (store : FileStore) (extra : List String) (directory : Path)
    (entries : List (String × Entry)) : Prop :=
  ∀ names, Entered extra entries names → store.listingFault? directory names = none

/-- The fault of the least directory, in the order of paths, that cannot be listed. -/
def StopsAt (store : FileStore) (extra : List String) (directory : Path)
    (entries : List (String × Entry)) (fault : ScanFault) : Prop :=
  ∃ names, Entered extra entries names ∧
    store.listingFault? directory names = some fault ∧
    ∀ others, Entered extra entries others → others < names →
      store.listingFault? directory others = none

theorem firstFault?_eq_none :
    store.firstFault? extra directory entries = none ↔
      store.Listable extra directory entries := by
  unfold firstFault? Listable
  simp only [List.findSome?_eq_none_iff, List.mem_mergeSort, mem_entered_list_iff]

theorem StopsAt.unique
    {fault other : ScanFault} (hfault : store.StopsAt extra directory entries fault)
    (hother : store.StopsAt extra directory entries other) : fault = other := by
  obtain ⟨names, hentered, hnames, hleast⟩ := hfault
  obtain ⟨others, hentered', hothers, hleast'⟩ := hother
  rcases lt_trichotomy names others with hlt | rfl | hlt
  · rw [hleast' names hentered hlt] at hnames
    contradiction
  · exact Option.some.inj (hnames.symm.trans hothers)
  · rw [hleast others hentered' hlt] at hothers
    contradiction

/-- A scan stops at the first directory in the order of the walk that cannot be listed. -/
theorem stopsAt_of_firstFault?
    {fault : ScanFault} (hfault : store.firstFault? extra directory entries = some fault) :
    store.StopsAt extra directory entries fault := by
  let ways := ([] :: enteredAll extra entries).mergeSort Path.namesBefore
  have hmem (names : List String) : names ∈ ways ↔ Entered extra entries names := by
    rw [List.mem_mergeSort, mem_entered_list_iff]
  have hsorted : ways.Pairwise fun a b => Path.namesBefore a b := by
    apply List.pairwise_mergeSort
    · intro a b c hab hbc
      exact Path.namesBefore_trans hab hbc
    · exact Path.namesBefore_total
  obtain ⟨before, names, after, hways, hnames, hbefore⟩ := List.findSome?_eq_some_iff.mp hfault
  change ways = before ++ names :: after at hways
  refine ⟨names, (hmem names).mp (by simp [hways]), hnames, fun others hothers hlt => ?_⟩
  rw [← hmem, hways, List.mem_append] at hothers
  rcases hothers with hothers | hothers
  · exact hbefore others hothers
  · -- What comes behind the names in the sorted list is not less than they are.
    have hle : names ≤ others := by
      rcases List.mem_cons.mp hothers with rfl | hothers
      · exact le_refl _
      · rw [hways, List.pairwise_append, List.pairwise_cons] at hsorted
        exact (Path.namesBefore_iff _ _).mp (hsorted.2.1.1 others hothers)
    exact absurd hlt (not_lt_of_ge hle)

theorem firstFault?_eq_some {fault : ScanFault} :
    store.firstFault? extra directory entries = some fault ↔
      store.StopsAt extra directory entries fault := by
  constructor
  · exact stopsAt_of_firstFault?
  · intro hfault
    cases hfirst : store.firstFault? extra directory entries with
    | none =>
        obtain ⟨names, hentered, hnames, _⟩ := hfault
        rw [firstFault?_eq_none.mp hfirst names hentered] at hnames
        contradiction
    | some other => rw [(stopsAt_of_firstFault? hfirst).unique hfault]

/-! ## Scans that succeed -/

theorem entry_of_seen
    (hseen : store.seen? directory = .ok (some (.directory entries))) :
    store.pathFault? directory.text = none ∧
      store.entry directory = .ok (.directory entries) := by
  unfold seen? look at hseen
  split at hseen
  · simp at hseen
  next hpath =>
    refine ⟨by simpa using hpath, ?_⟩
    split at hseen
    next entry hentry =>
      split at hentry
      · contradiction
      · simp only [Except.ok.injEq, Option.some.injEq] at hseen
        rw [hentry, hseen]
    · split at hseen <;> simp at hseen

/-- A scan that can list every directory it enters finds all that it reaches. -/
theorem filesBelow_of_listable
    (hseen : store.seen? directory = .ok (some (.directory entries)))
    (hlistable : store.Listable extra directory entries) :
    store.filesBelow extra directory = .ok ((reachedAll extra entries).map directory.append) := by
  unfold filesBelow
  rw [(entry_of_seen hseen).2]
  simp only [firstFault?_eq_none.mpr hlistable]

/-- The files found are those reached with a wanted extension, each once and in order. -/
theorem findFiles_exact
    (hseen : store.seen? directory = .ok (some (.directory entries)))
    (hlistable : store.Listable extra directory entries) (hdistinct : DistinctNames entries)
    (extensions : List String) :
    ∃ files, store.findFiles extra directory extensions = .ok files ∧
      files.Pairwise Path.Earlier ∧
      ∀ file, file ∈ files ↔
        ScanReaches extra entries directory file ∧
          lowerCase file.suffix ∈ extensions.map lowerCase := by
  let below := (reachedAll extra entries).map directory.append
  let wanted (file : Path) : Bool := (extensions.map lowerCase).contains file.extension
  have hrun :
      store.findFiles extra directory extensions =
        .ok ((below.filter wanted).mergeSort Path.before) := by
    unfold findFiles
    rw [hseen, filesBelow_of_listable hseen hlistable]
    rfl
  refine ⟨_, hrun, ?_, ?_⟩
  · have hroot : ∀ file ∈ below.filter wanted, file.root = directory.root := by
      intro file hfile
      obtain ⟨names, _, rfl⟩ := mem_map_append_reachedAll.mp (List.mem_filter.mp hfile).1
      rfl
    have happend : Function.Injective directory.append := by
      intro names others hsame
      simpa [Path.append] using hsame
    exact Path.pairwise_earlier hroot
      (((reachedAll_nodup extra entries hdistinct).map happend).filter wanted)
  · intro file
    rw [List.mem_mergeSort, List.mem_filter, mem_map_append_reachedAll, List.contains_iff_mem]
    rfl

/-- The extensions of the files, in order. -/
def extensionsOf (files : List Path) : List String :=
  inOrder ((files.map Path.extension).filter (· != ""))

theorem pairwise_extensionsOf (files : List Path) : (extensionsOf files).Pairwise (· < ·) :=
  pairwise_inOrder _

theorem mem_extensionsOf {extension : String} :
    extension ∈ extensionsOf ((reachedAll extra entries).map directory.append) ↔
      ScanMeets extra entries directory extension := by
  unfold extensionsOf
  rw [mem_inOrder, List.mem_filter, List.mem_map]
  constructor
  · rintro ⟨⟨file, hfile, rfl⟩, hnonempty⟩
    have hsuffix : file.suffix ≠ "" := by
      simpa [Path.extension, lowerCase_eq_empty] using hnonempty
    exact ⟨file, mem_map_append_reachedAll.mp hfile, hsuffix, rfl⟩
  · rintro ⟨file, hfile, hsuffix, rfl⟩
    refine ⟨⟨file, mem_map_append_reachedAll.mpr hfile, rfl⟩, ?_⟩
    simpa [lowerCase_eq_empty] using hsuffix

theorem detectExtensions_eq
    (hseen : store.seen? directory = .ok (some (.directory entries)))
    (hlistable : store.Listable extra directory entries) {files : List Path}
    (hfiles : (reachedAll extra entries).map directory.append = files) (shown : String)
    (defaults : List String) :
    store.detectExtensions extra shown directory defaults =
      if extensionsOf files = [] then
        .ok (defaults, [⟨.debug, "no_extensions_detected",
          [("directory", .text shown), ("defaults", .texts defaults)]⟩])
      else .ok (extensionsOf files, []) := by
  unfold detectExtensions extensionsOf
  simp only [(entry_of_seen hseen).1, filesBelow_of_listable hseen hlistable, hfiles]
  split
  next hnone => rw [if_pos hnone]
  next found hsome => rw [if_neg hsome]

/-- The extensions found are those of the files reached, or else the defaults. -/
theorem detectExtensions_exact
    (hseen : store.seen? directory = .ok (some (.directory entries)))
    (hlistable : store.Listable extra directory entries) (shown : String)
    (defaults : List String) :
    ∃ found events,
      store.detectExtensions extra shown directory defaults = .ok (found, events) ∧
        ((∃ extension, ScanMeets extra entries directory extension) →
          found.Pairwise (· < ·) ∧
            ∀ extension, extension ∈ found ↔ ScanMeets extra entries directory extension) ∧
        ((¬ ∃ extension, ScanMeets extra entries directory extension) → found = defaults) := by
  have hrun := detectExtensions_eq hseen hlistable rfl shown defaults
  by_cases hmeets : ∃ extension, ScanMeets extra entries directory extension
  · obtain ⟨extension, hextension⟩ := hmeets
    rw [if_neg (List.ne_nil_of_mem (mem_extensionsOf.mpr hextension))] at hrun
    refine ⟨_, _, hrun, fun _ => ?_, fun hnone => absurd ⟨extension, hextension⟩ hnone⟩
    exact ⟨pairwise_extensionsOf _, fun _ => mem_extensionsOf⟩
  · have hnone : extensionsOf ((reachedAll extra entries).map directory.append) = [] := by
      apply List.eq_nil_iff_forall_not_mem.mpr
      intro extension hextension
      exact hmeets ⟨extension, mem_extensionsOf.mp hextension⟩
    rw [if_pos hnone] at hrun
    exact ⟨_, _, hrun, fun hsome => absurd hsome hmeets, fun _ => rfl⟩

/-- The order in which directories list their entries does not show. -/
theorem scan_order
    (hseen : store.seen? directory = .ok (some (.directory entries)))
    (hlistable : store.Listable extra directory entries) (hdistinct : DistinctNames entries)
    (extensions : List String) (shown : String) (defaults : List String)
    {other : FileStore} {listed : List (String × Entry)}
    (hother : other.seen? directory = .ok (some (.directory listed)))
    (hothers : other.Listable extra directory listed) (hlisted : DistinctNames listed)
    (hsame : ∀ names, LeadsToFile listed names ↔ LeadsToFile entries names) :
    other.findFiles extra directory extensions = store.findFiles extra directory extensions ∧
      other.detectExtensions extra shown directory defaults =
        store.detectExtensions extra shown directory defaults := by
  have hreaches (file : Path) :
      ScanReaches extra listed directory file ↔ ScanReaches extra entries directory file := by
    simp only [ScanReaches, Reached.iff_of_leads hsame]
  constructor
  · obtain ⟨files, hfiles, hsorted, hmem⟩ := findFiles_exact hseen hlistable hdistinct extensions
    obtain ⟨others, hfound, hsorted', hmem'⟩ := findFiles_exact hother hothers hlisted extensions
    have hequal : others = files := by
      apply hsorted'.eq_of_mem_iff hsorted
      intro file
      rw [hmem, hmem', hreaches]
    rw [hfiles, hfound, hequal]
  · have hequal :
        extensionsOf ((reachedAll extra listed).map directory.append) =
          extensionsOf ((reachedAll extra entries).map directory.append) := by
      apply (pairwise_extensionsOf _).eq_of_mem_iff (pairwise_extensionsOf _)
      intro extension
      simp only [mem_extensionsOf, ScanMeets, hreaches]
    rw [detectExtensions_eq hother hothers rfl, detectExtensions_eq hseen hlistable rfl, hequal]

/-! ## Scans that fail -/

/-- A scan that cannot list a directory gives up all that it has found. -/
theorem filesBelow_of_stopsAt
    (hseen : store.seen? directory = .ok (some (.directory entries))) {fault : ScanFault}
    (hfault : store.StopsAt extra directory entries fault) :
    store.filesBelow extra directory = .error fault := by
  unfold filesBelow
  rw [(entry_of_seen hseen).2]
  simp only [firstFault?_eq_some.mpr hfault]

/-- A scan fails with the fault of the first directory that cannot be listed, and detection
makes do with the defaults. -/
theorem scan_stopped
    (hseen : store.seen? directory = .ok (some (.directory entries))) {fault : ScanFault}
    (hfault : store.StopsAt extra directory entries fault) (extensions : List String)
    (shown : String) (defaults : List String) :
    store.findFiles extra directory extensions = .error fault ∧
      store.detectExtensions extra shown directory defaults =
        .ok (defaults, [⟨.warning, "extension_detection_failed",
          [("directory", .text shown), ("error", .text fault.text)]⟩]) := by
  have hbelow := filesBelow_of_stopsAt hseen hfault
  constructor
  · unfold findFiles
    rw [hseen, hbelow]
    rfl
  · unfold detectExtensions
    simp only [(entry_of_seen hseen).1, hbelow]

/-- What a scan of a directory finds is determined by the files below it and by the names
of the directories on the way to them, if every directory that it enters can be listed.
Otherwise it fails as the first of those fails that cannot. -/
theorem scan_exact
    (hseen : store.seen? directory = .ok (some (.directory entries)))
    (hdistinct : DistinctNames entries) (extra extensions : List String) (shown : String)
    (defaults : List String) :
    (store.Listable extra directory entries →
      (∃ files, store.findFiles extra directory extensions = .ok files ∧
          files.Pairwise Path.Earlier ∧
          ∀ file, file ∈ files ↔
            ScanReaches extra entries directory file ∧
              lowerCase file.suffix ∈ extensions.map lowerCase) ∧
        (∃ found events,
          store.detectExtensions extra shown directory defaults = .ok (found, events) ∧
            ((∃ extension, ScanMeets extra entries directory extension) →
              found.Pairwise (· < ·) ∧
                ∀ extension, extension ∈ found ↔ ScanMeets extra entries directory extension) ∧
            ((¬ ∃ extension, ScanMeets extra entries directory extension) →
              found = defaults)) ∧
        ∀ (other : FileStore) (listed : List (String × Entry)),
          other.seen? directory = .ok (some (.directory listed)) →
            other.Listable extra directory listed → DistinctNames listed →
            (∀ names, LeadsToFile listed names ↔ LeadsToFile entries names) →
              other.findFiles extra directory extensions =
                  store.findFiles extra directory extensions ∧
                other.detectExtensions extra shown directory defaults =
                  store.detectExtensions extra shown directory defaults) ∧
      (¬ store.Listable extra directory entries →
        ∃ fault, store.StopsAt extra directory entries fault ∧
          store.findFiles extra directory extensions = .error fault ∧
          store.detectExtensions extra shown directory defaults =
            .ok (defaults, [⟨.warning, "extension_detection_failed",
              [("directory", .text shown), ("error", .text fault.text)]⟩])) := by
  constructor
  · intro hlistable
    refine ⟨?files, ?extensions, ?order⟩
    case files => exact findFiles_exact hseen hlistable hdistinct extensions
    case extensions => exact detectExtensions_exact hseen hlistable shown defaults
    case order =>
      intro other listed hother hothers hlisted hsame
      exact scan_order hseen hlistable hdistinct extensions shown defaults hother hothers hlisted
        hsame
  · intro hnot
    obtain ⟨fault, hfault⟩ := Option.ne_none_iff_exists'.mp (mt firstFault?_eq_none.mp hnot)
    have hstops := firstFault?_eq_some.mp hfault
    exact ⟨fault, hstops, scan_stopped hseen hstops extensions shown defaults⟩

def sampleEntries : List (String × Entry) :=
  [("src", .directory [("Main.PY", .file []), ("notes", .file [])]),
    (".git", .directory [("hook.py", .file [])]), ("a.b", .directory [("x.c", .file [])])]

/-- The scan begins at a directory that it would leave out further down. -/
def sampleStore : FileStore where
  entries := [("vendor", .directory sampleEntries)]

theorem sample_seen :
    sampleStore.seen? { names := ["vendor"] } = .ok (some (.directory sampleEntries)) := rfl

theorem sample_distinct : DistinctNames sampleEntries := by
  simp [sampleEntries, DistinctNames, Entry.Distinct]

theorem sample_listable :
    sampleStore.Listable ["a.b"] { names := ["vendor"] } sampleEntries := by
  have hnone : ∀ names ∈ [] :: enteredAll ["a.b"] sampleEntries,
      sampleStore.listingFault? { names := ["vendor"] } names = none := by
    decide +kernel
  intro names hnames
  exact hnone names (mem_entered_list_iff.mpr hnames)

theorem reached_sample :
    Reached ["a.b"] sampleEntries names ↔ names = ["src", "Main.PY"] ∨ names = ["src", "notes"] := by
  have hlist : reachedAll ["a.b"] sampleEntries = [["src", "Main.PY"], ["src", "notes"]] := by
    decide +kernel
  rw [← mem_reachedAll_iff, hlist]
  simp

theorem scan_exact_vendor :
    (∃ files, sampleStore.findFiles ["a.b"] { names := ["vendor"] } [".Py"] = .ok files ∧
        ∀ file, file ∈ files ↔ file = { names := ["vendor", "src", "Main.PY"] }) ∧
      ∃ found events,
        sampleStore.detectExtensions ["a.b"] "vendor" { names := ["vendor"] } [".ts"] =
            .ok (found, events) ∧
          ∀ extension, extension ∈ found ↔ extension = ".py" := by
  obtain ⟨⟨files, hfiles, _, hmem⟩, ⟨found, events, hfound, hsome, _⟩, _⟩ :=
    (scan_exact sample_seen sample_distinct ["a.b"] [".Py"] "vendor" [".ts"]).1 sample_listable
  have hpython : lowerCase (Path.suffix { names := ["vendor", "src", "Main.PY"] }) = ".py" := by
    decide +kernel
  have hnotes : Path.suffix { names := ["vendor", "src", "notes"] } = "" := by decide +kernel
  have hreaches (file : Path) :
      ScanReaches ["a.b"] sampleEntries { names := ["vendor"] } file ↔
        file = { names := ["vendor", "src", "Main.PY"] } ∨
          file = { names := ["vendor", "src", "notes"] } := by
    simp [ScanReaches, reached_sample, Path.append, or_and_right, exists_or]
  have hmeets (extension : String) :
      ScanMeets ["a.b"] sampleEntries { names := ["vendor"] } extension ↔ extension = ".py" := by
    constructor
    · rintro ⟨file, hfile, hsuffix, rfl⟩
      rcases (hreaches file).mp hfile with rfl | rfl
      · exact hpython
      · exact absurd hnotes hsuffix
    · rintro rfl
      exact ⟨_, (hreaches _).mpr (.inl rfl), by decide +kernel, hpython⟩
  refine ⟨⟨files, hfiles, ?_⟩, found, events, hfound, ?_⟩
  · intro file
    rw [hmem, hreaches]
    constructor
    · rintro ⟨rfl | rfl, hwanted⟩
      · rfl
      · rw [hnotes] at hwanted
        exact absurd hwanted (by decide +kernel)
    · rintro rfl
      exact ⟨.inl rfl, by rw [hpython]; decide +kernel⟩
  · intro extension
    rw [(hsome ⟨".py", (hmeets ".py").mpr rfl⟩).2, hmeets]

def lockedEntries : List (String × Entry) :=
  [("a.py", .file []), ("private", .directory [])]

/-- A directory with a file of a language and a directory that refuses to be listed. -/
def lockedStore : FileStore where
  entries := [("lib", .directory lockedEntries)]
  access := {
    unlisted := fun path =>
      if path.names = ["lib", "private"] then some (.refused 13 "Permission denied") else none }

/-- A single directory that cannot be listed keeps a scan from finding any file. -/
theorem scan_not_always_exact :
    ¬ ∀ (store : FileStore) (directory : Path) (entries : List (String × Entry))
        (extra extensions : List String),
      store.seen? directory = .ok (some (.directory entries)) → DistinctNames entries →
        ∃ files, store.findFiles extra directory extensions = .ok files ∧
          ∀ file, file ∈ files ↔
            ScanReaches extra entries directory file ∧
              lowerCase file.suffix ∈ extensions.map lowerCase := by
  intro hclaim
  have hseen : lockedStore.seen? { names := ["lib"] } = .ok (some (.directory lockedEntries)) :=
    rfl
  have hdistinct : DistinctNames lockedEntries := by
    simp [lockedEntries, DistinctNames, Entry.Distinct]
  obtain ⟨files, hfiles, _⟩ := hclaim lockedStore _ _ [] [".py"] hseen hdistinct
  have hprivate : Entered [] lockedEntries ["private"] := by
    rw [← mem_entered_list_iff]
    decide +kernel
  have hlocked : lockedStore.listingFault? { names := ["lib"] } ["private"] =
      some (.access (.refused 13 "Permission denied") "lib/private") := by
    decide +kernel
  have hnot : ¬ lockedStore.Listable [] { names := ["lib"] } lockedEntries := by
    intro hlistable
    rw [hlistable _ hprivate] at hlocked
    contradiction
  obtain ⟨fault, hfault⟩ := Option.ne_none_iff_exists'.mp (mt firstFault?_eq_none.mp hnot)
  have hstopped := scan_stopped hseen (firstFault?_eq_some.mp hfault) [".py"] "lib" []
  rw [hstopped.1] at hfiles
  contradiction

end FileStore
end SourceOutline
