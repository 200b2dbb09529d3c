import SourceOutline.Proofs.Extractor.Directory
import SourceOutline.Proofs.Text.Lower

/-!
# Which files a scan takes

A scan for some extensions parses a part of the files that a scan for all known
extensions parses, and it parses them in the same order.  Their records differ only in
the identifiers: those of the files left out are missing, and the others move up.  The
new identifier of a declaration is its rank among the identifiers that are left.

A scan without extensions looks for those that it detects.  Among them are those of all
files that belong to a language, because an extension is detected in lower case and
lower case does not change when it is lowered again.  What is detected besides belongs
to files that are not parsed.  When nothing is detected, whatever is looked for instead
finds no file that is parsed.
-/

namespace SourceOutline

/-! ## New numbers -/

def FunctionRecord.renumbered (number : Int → Int) (record : FunctionRecord) : FunctionRecord :=
  { record with id := number record.id }

def ClassRecord.renumbered (number : Int → Int) (record : ClassRecord) : ClassRecord :=
  { record with
    id := number record.id
    methods := record.methods.map (FunctionRecord.renumbered number) }

def FileRecord.renumbered (number : Int → Int) (file : FileRecord) : FileRecord :=
  { file with
    functions := file.functions.map (FunctionRecord.renumbered number)
    classes := file.classes.map (ClassRecord.renumbered number) }

theorem FileRecord.raised_eq_renumbered (amount : Int) (file : FileRecord) :
    file.raised amount = file.renumbered (· + amount) := rfl

theorem FileRecord.declarationCount_raised (amount : Int) (file : FileRecord) :
    (file.raised amount).declarationCount = file.declarationCount := by
  simp [declarationCount, raised, ClassRecord.raised, Function.comp_def]

theorem ClassRecord.renumbered_congr
    {number other : Int → Int} {record : ClassRecord}
    (hsame : ∀ id ∈ record.ids, number id = other id) :
    record.renumbered number = record.renumbered other := by
  have hid : number record.id = other record.id := hsame _ List.mem_cons_self
  have hmethods :
      record.methods.map (FunctionRecord.renumbered number) =
        record.methods.map (FunctionRecord.renumbered other) := by
    refine List.map_congr_left fun method hmethod => ?_
    rw [FunctionRecord.renumbered, FunctionRecord.renumbered,
      hsame _ (List.mem_cons_of_mem _ (List.mem_map_of_mem hmethod))]
  rw [renumbered, renumbered, hid, hmethods]

theorem FileRecord.renumbered_congr
    {number other : Int → Int} {file : FileRecord}
    (hsame : ∀ id ∈ file.ids, number id = other id) :
    file.renumbered number = file.renumbered other := by
  have hfunctions :
      file.functions.map (FunctionRecord.renumbered number) =
        file.functions.map (FunctionRecord.renumbered other) := by
    refine List.map_congr_left fun record hrecord => ?_
    rw [FunctionRecord.renumbered, FunctionRecord.renumbered,
      hsame _ (List.mem_append_left _ (List.mem_map_of_mem hrecord))]
  have hclasses :
      file.classes.map (ClassRecord.renumbered number) =
        file.classes.map (ClassRecord.renumbered other) := by
    refine List.map_congr_left fun record hrecord => ClassRecord.renumbered_congr ?_
    intro id hid
    exact hsame id (List.mem_append_right _ (List.mem_flatMap.mpr ⟨record, hrecord, hid⟩))
  rw [renumbered, renumbered, hfunctions, hclasses]

/-- The place of an identifier among others, counted from `first` on. -/
def rankFrom (first : Int) (ids : List Int) (id : Int) : Int :=
  first + ids.countP (· < id)

theorem rankFrom_lt
    (first : Int) {ids : List Int} {a b : Int} (ha : a ∈ ids) (hab : a < b) :
    rankFrom first ids a < rankFrom first ids b := by
  have hcount : ids.countP (· < a) < ids.countP (· < b) := by
    induction ids with
    | nil => contradiction
    | cons id rest ih =>
        rw [List.countP_cons, List.countP_cons]
        rcases List.mem_cons.mp ha with rfl | hrest
        · have hmono : rest.countP (· < a) ≤ rest.countP (· < b) := by
            refine List.countP_mono_left fun x _ hx => ?_
            rw [decide_eq_true_eq] at hx ⊢
            omega
          simp only [lt_irrefl, hab, decide_true, decide_false, if_true]
          simp only [Bool.false_eq_true, if_false]
          omega
        · have hothers := ih hrest
          by_cases hid : id < a
          · have hother : id < b := by omega
            simp only [hid, hother, decide_true, if_true]
            omega
          · simp only [hid, decide_false, Bool.false_eq_true, if_false]
            omega
  unfold rankFrom
  omega

theorem countP_consecutive (first : Int) (count : Nat) (id : Int) :
    (consecutive first count).countP (· < id) = min count (id - first).toNat := by
  induction count generalizing first with
  | zero => simp
  | succ count ih =>
      rw [consecutive_succ, List.countP_cons, ih]
      by_cases hfirst : first < id
      · simp only [hfirst, decide_true, if_true]
        omega
      · simp only [hfirst, decide_false, Bool.false_eq_true, if_false]
        omega

theorem mem_consecutive {first id : Int} {count : Nat} :
    id ∈ consecutive first count ↔ first ≤ id ∧ id < first + count := by
  unfold consecutive
  simp only [List.mem_map, List.mem_range]
  constructor
  · rintro ⟨k, hk, rfl⟩
    omega
  · rintro ⟨hfirst, hlast⟩
    exact ⟨(id - first).toNat, by omega, by omega⟩

/-- A file that comes before others keeps its numbers up to a shift, and the others are
ranked behind it. -/
theorem renumbered_cons
    {file : FileRecord} {others : List FileRecord} {id : Int} (hfile : file.NumberedFrom id)
    (hothers : ∀ other ∈ others.flatMap FileRecord.ids, id + file.declarationCount ≤ other)
    (first : Int) :
    (file :: others).map
        (FileRecord.renumbered (rankFrom first ((file :: others).flatMap FileRecord.ids))) =
      file.raised (first - id) ::
        others.map (FileRecord.renumbered
          (rankFrom (first + file.declarationCount) (others.flatMap FileRecord.ids))) := by
  have hcount (bound : Int) :
      file.ids.countP (· < bound) = min file.declarationCount (bound - id).toNat := by
    rw [hfile.ids.countP_eq, countP_consecutive]
  rw [List.map_cons, List.flatMap_cons, FileRecord.raised_eq_renumbered]
  congr 1
  · refine FileRecord.renumbered_congr fun own hown => ?_
    have hbounds := mem_consecutive.mp (hfile.ids.mem_iff.mp hown)
    have hnone : (others.flatMap FileRecord.ids).countP (· < own) = 0 := by
      rw [List.countP_eq_zero]
      intro other hother
      have hbehind := hothers other hother
      rw [decide_eq_true_eq]
      omega
    rw [rankFrom, List.countP_append, hcount, hnone]
    omega
  · refine List.map_congr_left fun other hother => FileRecord.renumbered_congr fun own hown => ?_
    have hbehind := hothers own (List.mem_flatMap.mpr ⟨other, hother, hown⟩)
    rw [rankFrom, rankFrom, List.countP_append, hcount]
    omega

namespace Extractor

open Extraction

variable {workspace : Workspace} {settings : ExtractionSettings}

/-! ## Leaving out files -/

theorem extractedAs_numbered (path : Path) (id : Int) (unit : Option SourceUnit) :
    (extractedAs path id unit).record.NumberedFrom id := by
  cases unit with
  | none => exact empty_numbered id path.text
  | some unit => exact unit.assemble_numbered id path.text

theorem extractedAs_fileName (path : Path) (id : Int) (unit : Option SourceUnit) :
    (extractedAs path id unit).record.fileName = path.text := by
  cases unit <;> rfl

/-- The records of some files, with identifiers from `id` on. -/
def recordsFrom (workspace : Workspace) (settings : ExtractionSettings) (id : Int)
    (paths : List Path) : List FileRecord :=
  (extractedAll workspace settings id paths).map Extracted.record

theorem recordsFrom_cons (id : Int) (path : Path) (rest : List Path) :
    recordsFrom workspace settings id (path :: rest) =
      (extractedAs path id (unitAt? workspace settings path)).record ::
        recordsFrom workspace settings
          (id + (extractedAs path id (unitAt? workspace settings path)).record.declarationCount)
          rest := by
  rw [recordsFrom, extractedAll, List.map_cons, extractedAs_nextId, recordsFrom]

theorem recordsFrom_numbered
    (workspace : Workspace) (settings : ExtractionSettings) (id : Int) (paths : List Path) :
    NumberedRun id (recordsFrom workspace settings id paths) := by
  induction paths generalizing id with
  | nil => trivial
  | cons path rest ih =>
      rw [recordsFrom_cons]
      exact ⟨extractedAs_numbered path id _, ih _⟩

theorem le_of_mem_recordsFrom
    {id other : Int} {paths : List Path}
    (hother : other ∈ (recordsFrom workspace settings id paths).flatMap FileRecord.ids) :
    id ≤ other :=
  (mem_consecutive.mp
    ((recordsFrom_numbered workspace settings id paths).ids_perm.mem_iff.mp hother)).1

/-- Extracting fewer files gives the records of these files with new numbers. -/
theorem recordsFrom_filter
    (workspace : Workspace) (settings : ExtractionSettings) (keep : String → Bool)
    (id first : Int) (paths : List Path) :
    recordsFrom workspace settings first (paths.filter fun path => keep path.text) =
      ((recordsFrom workspace settings id paths).filter fun file => keep file.fileName).map
        (FileRecord.renumbered (rankFrom first
          (((recordsFrom workspace settings id paths).filter fun file =>
            keep file.fileName).flatMap FileRecord.ids))) := by
  induction paths generalizing id first with
  | nil => rfl
  | cons path rest ih =>
      have hname := extractedAs_fileName path id (unitAt? workspace settings path)
      have hnumbered := extractedAs_numbered path id (unitAt? workspace settings path)
      have hraised :=
        extractedAs_raised path id (first - id) (unitAt? workspace settings path)
      rw [show id + (first - id) = first by omega] at hraised
      rw [recordsFrom_cons id]
      generalize (extractedAs path id (unitAt? workspace settings path)).record = file
        at hname hnumbered hraised ⊢
      rw [List.filter_cons, List.filter_cons, hname]
      cases keep path.text with
      | false => exact ih _ first
      | true =>
          have hothers :
              ∀ other ∈ ((recordsFrom workspace settings (id + file.declarationCount) rest).filter
                  fun file => keep file.fileName).flatMap FileRecord.ids,
                id + file.declarationCount ≤ other := by
            intro other hother
            exact le_of_mem_recordsFrom ((List.filter_sublist.flatMap _).subset hother)
          rw [if_pos rfl, if_pos rfl, renumbered_cons hnumbered hothers, recordsFrom_cons, hraised,
            FileRecord.declarationCount_raised, ih (id + file.declarationCount)]

/-- The default extensions decide which files there are and nothing about a file. -/
theorem recordsFrom_defaults
    (workspace : Workspace) (settings : ExtractionSettings) (defaults : List String) (id : Int)
    (paths : List Path) :
    recordsFrom workspace { settings with defaultExtensions := defaults } id paths =
      recordsFrom workspace settings id paths := by
  induction paths generalizing id with
  | nil => rfl
  | cons path rest ih =>
      rw [recordsFrom_cons, recordsFrom_cons, ih]
      rfl

/-! ## Files that are parsed -/

theorem knownExtensions_ne_nil : Pack.knownExtensions ≠ [] := by
  decide +kernel

theorem lowerCase_extension (path : Path) : lowerCase path.extension = path.extension :=
  lowerCase_lowerCase path.suffix

theorem isParsed_eq {path : Path} (hpath : path.Proper) :
    isParsed path = Pack.knownExtensions.contains path.extension := by
  have hskipped : ∀ skipped ∈ Pack.skippedExtensions, skipped ∉ Pack.knownExtensions := by
    decide +kernel
  have hknown :
      (Pack.forExtension? path.extension).isSome =
        Pack.knownExtensions.contains path.extension := by
    rw [Pack.forExtension?, lowerCase_extension, Bool.eq_iff_iff, List.find?_isSome,
      List.contains_iff_mem]
    simp only [List.contains_iff_mem, Pack.knownExtensions, List.mem_flatMap]
  unfold isParsed Grammar.resolve
  rw [Path.ofString_text hpath]
  simp only
  split
  next hjson =>
    rw [List.contains_iff_mem] at hjson
    simpa using hskipped _ hjson
  next =>
    rw [← hknown]
    split
    next pack hpack => rw [hpack]; rfl
    next hnone => rw [hnone]; rfl

/-- The files below a directory that belong to a language, in order. -/
def parsedFiles (workspace : Workspace) (settings : ExtractionSettings) (directory : Path) :
    List Path :=
  ((workspace.files.filesReached settings.extraExcludedDirs directory).filter isParsed).mergeSort
    Path.before

theorem scannedFiles_filter_isParsed (directory : Path) (extensions : List String) :
    (scannedFiles workspace settings directory extensions).filter isParsed =
      (parsedFiles workspace settings directory).filter fun file =>
        ((scannedExtensions workspace settings directory extensions).map lowerCase).contains
          file.extension := by
  have hroot :
      ∀ file ∈ workspace.files.filesReached settings.extraExcludedDirs directory,
        file.root = directory.root :=
    fun file hfile => FileStore.root_of_mem_filesReached hfile
  have hscanned : scannedFiles workspace settings directory extensions = _ :=
    FileStore.findFiles_eq (scannedExtensions workspace settings directory extensions)
  rw [hscanned, parsedFiles, Path.filter_mergeSort_before, Path.filter_mergeSort_before,
    List.filter_filter, List.filter_filter]
  · simp only [Bool.and_comm]
  · intro file hfile
    exact hroot file (List.mem_filter.mp hfile).1
  · intro file hfile
    exact hroot file (List.mem_filter.mp hfile).1

theorem mem_of_mem_scannedFiles
    {directory : Path} {extensions : List String} {file : Path}
    (hfile : file ∈ scannedFiles workspace settings directory extensions) :
    file ∈ workspace.files.filesReached settings.extraExcludedDirs directory := by
  have hscanned : scannedFiles workspace settings directory extensions = _ :=
    FileStore.findFiles_eq (scannedExtensions workspace settings directory extensions)
  rw [hscanned, List.mem_mergeSort] at hfile
  exact (List.mem_filter.mp hfile).1

section WellNamed

variable {shown : String} (hstore : workspace.files.WellNamed)
  (hshown : workspace.files.pathFault? shown = none)

include hshown in
theorem pathFault?_ofString : workspace.files.pathFault? (Path.ofString shown).text = none :=
  FileStore.pathFault?_text (Path.proper_ofString shown) (FileStore.pathFault?_of_mem_names hshown)

include hstore hshown

theorem proper_of_mem_filesReached
    {extra : List String} {file : Path}
    (hfile : file ∈ workspace.files.filesReached extra (.ofString shown)) :
    file.Proper ∧ workspace.files.pathFault? file.text = none :=
  hstore.filesReached (Path.proper_ofString shown) (FileStore.pathFault?_of_mem_names hshown)
    hfile

theorem known_of_mem_parsedFiles
    {file : Path} (hfile : file ∈ parsedFiles workspace settings (.ofString shown)) :
    file.Proper ∧ file.extension ∈ Pack.knownExtensions := by
  obtain ⟨hreached, hparsed⟩ := List.mem_filter.mp (List.mem_mergeSort.mp hfile)
  have hproper := (proper_of_mem_filesReached hstore hshown hreached).1
  rw [isParsed_eq hproper, List.contains_iff_mem] at hparsed
  exact ⟨hproper, hparsed⟩

/-- What a directory gives, the extensions being found out or given. -/
theorem parseDirectory_yields
    (settings : ExtractionSettings) (hregular : workspace.Regular)
    (extensions : List String) :
    (parseDirectory workspace settings (.ofString shown) extensions).Yields workspace.faults
      (.ok (recordsFrom workspace settings 1
        ((parsedFiles workspace settings (.ofString shown)).filter fun file =>
          ((scannedExtensions workspace settings (.ofString shown) extensions).map
            lowerCase).contains file.extension))) := by
  have hfiles :
      ∀ file ∈ scannedFiles workspace settings (.ofString shown) extensions,
        workspace.files.pathFault? file.text = none := by
    intro file hfile
    exact (proper_of_mem_filesReached hstore hshown (mem_of_mem_scannedFiles hfile)).2
  rw [← scannedFiles_filter_isParsed]
  exact (scan_yields hregular (fun _ => pathFault?_ofString hshown) hfiles).bind
    (Yields.pure _ _)

theorem parseDirectory_yields_given
    (settings : ExtractionSettings) (hregular : workspace.Regular)
    {extensions : List String} (hgiven : extensions ≠ []) :
    (parseDirectory workspace settings (.ofString shown) extensions).Yields workspace.faults
      (.ok (recordsFrom workspace settings 1
        ((parsedFiles workspace settings (.ofString shown)).filter fun file =>
          (extensions.map lowerCase).contains file.extension))) := by
  have hscanned :
      scannedExtensions workspace settings (.ofString shown) extensions = extensions := by
    unfold scannedExtensions
    rw [if_neg (by simpa using hgiven)]
  have hyields := parseDirectory_yields hstore hshown settings hregular extensions
  rwa [hscanned] at hyields

/-- Looking for all known extensions finds all files that are parsed. -/
theorem filter_known (settings : ExtractionSettings) :
    ((parsedFiles workspace settings (.ofString shown)).filter fun file =>
        (Pack.knownExtensions.map lowerCase).contains file.extension) =
      parsedFiles workspace settings (.ofString shown) := by
  have hlower : Pack.knownExtensions.map lowerCase = Pack.knownExtensions := by decide +kernel
  rw [hlower, List.filter_eq_self]
  intro file hfile
  rw [List.contains_iff_mem]
  exact (known_of_mem_parsedFiles hstore hshown hfile).2

/-- Looking for the extensions that are detected finds all files that are parsed. -/
theorem filter_detected (settings : ExtractionSettings) :
    ((parsedFiles workspace settings (.ofString shown)).filter fun file =>
        ((scannedExtensions workspace settings (.ofString shown) []).map
          lowerCase).contains file.extension) =
      parsedFiles workspace settings (.ofString shown) := by
  have hempty : "" ∉ Pack.knownExtensions := by decide +kernel
  obtain ⟨⟨found, events⟩, hfound⟩ :=
    detectExtensions_ok settings.extraExcludedDirs (Path.ofString shown).text
      (pathFault?_ofString hshown) settings.defaultExtensions
  have hscanned : scannedExtensions workspace settings (.ofString shown) [] = found := by
    simp only [scannedExtensions, List.isEmpty_nil, if_true, hfound]
  rw [hscanned, List.filter_eq_self]
  intro file hfile
  have hknown := (known_of_mem_parsedFiles hstore hshown hfile).2
  have hreached := (List.mem_filter.mp (List.mem_mergeSort.mp hfile)).1
  have hextension : file.extension ≠ "" := fun heq => hempty (heq ▸ hknown)
  have hmem := FileStore.mem_of_detectExtensions hfound hreached hextension
  rw [List.contains_iff_mem, ← lowerCase_extension file]
  exact List.mem_map_of_mem hmem

end WellNamed

/-! ## Whole scans -/

/-- Whether the file of a record has one of some extensions, whatever their case. -/
def hasExtension (extensions : List String) (file : FileRecord) : Bool :=
  (extensions.map lowerCase).contains (Path.ofString file.fileName).extension

/-- Records whose identifiers are counted anew from one, in the order they had. -/
structure Recounted (records recounted : List FileRecord) : Prop where
  renumbered : ∃ number : Int → Int,
    (∀ a ∈ records.flatMap FileRecord.ids, ∀ b ∈ records.flatMap FileRecord.ids,
      a < b → number a < number b) ∧
    recounted = records.map (FileRecord.renumbered number)
  dense : DenseIds 1 (1 + declarationTotal recounted) recounted

/-- A selection of the files is numbered as if there were no others. -/
theorem recounted_selection
    (hstore : workspace.files.WellNamed) {shown : String}
    (hshown : workspace.files.pathFault? shown = none) (extensions : List String) :
    Recounted
      ((recordsFrom workspace settings 1
        (parsedFiles workspace settings (.ofString shown))).filter (hasExtension extensions))
      (recordsFrom workspace settings 1
        ((parsedFiles workspace settings (.ofString shown)).filter fun file =>
          (extensions.map lowerCase).contains file.extension)) := by
  -- A record keeps only the text of its path, from which the path can be read back.
  have hfiles :
      ((parsedFiles workspace settings (.ofString shown)).filter fun file =>
          (extensions.map lowerCase).contains file.extension) =
        (parsedFiles workspace settings (.ofString shown)).filter fun file =>
          (extensions.map lowerCase).contains (Path.ofString file.text).extension := by
    refine List.filter_congr fun file hfile => ?_
    rw [Path.ofString_text (known_of_mem_parsedFiles hstore hshown hfile).1]
  have hrenumbered :=
    recordsFrom_filter workspace settings
      (fun text => (extensions.map lowerCase).contains (Path.ofString text).extension) 1 1
      (parsedFiles workspace settings (.ofString shown))
  rw [← hfiles] at hrenumbered
  exact
    ⟨⟨_, fun a ha b _ hab => rankFrom_lt 1 ha hab, hrenumbered⟩,
      (recordsFrom_numbered workspace settings 1 _).denseIds⟩

/-- A scan without extensions returns what a scan for all known extensions returns,
whatever the defaults are.  A scan for some extensions returns the records of the files
that have one of them, counted anew, and it does not matter in which order, in which case
and how often the extensions are given.  The file system can be asked about the path of
every directory. -/
theorem parseDirectory_extensions
    (workspace : Workspace) (settings : ExtractionSettings) (shown : String)
    (hregular : workspace.Regular) (hstore : workspace.files.WellNamed)
    (hshown : workspace.files.pathFault? shown = none) :
    ∃ records,
      (parseDirectory workspace settings (.ofString shown) Pack.knownExtensions).Yields
          workspace.faults (.ok records) ∧
        (∀ defaults,
          (parseDirectory workspace { settings with defaultExtensions := defaults }
            (.ofString shown) []).Yields workspace.faults (.ok records)) ∧
        ∀ extensions, extensions ≠ [] →
          ∃ selected,
            (parseDirectory workspace settings (.ofString shown) extensions).Yields
                workspace.faults (.ok selected) ∧
              Recounted (records.filter (hasExtension extensions)) selected ∧
              ∀ others, others ≠ [] →
                (∀ extension, extension ∈ others.map lowerCase ↔
                  extension ∈ extensions.map lowerCase) →
                (parseDirectory workspace settings (.ofString shown) others).Yields
                  workspace.faults (.ok selected) := by
  refine ⟨recordsFrom workspace settings 1 (parsedFiles workspace settings (.ofString shown)),
    ?_, ?_, ?_⟩
  · have hyields :=
      parseDirectory_yields_given hstore hshown settings hregular knownExtensions_ne_nil
    rwa [filter_known hstore hshown settings] at hyields
  · intro defaults
    have hyields :=
      parseDirectory_yields hstore hshown { settings with defaultExtensions := defaults }
        hregular []
    rwa [filter_detected hstore hshown, recordsFrom_defaults] at hyields
  · intro extensions hextensions
    refine ⟨_, parseDirectory_yields_given hstore hshown settings hregular hextensions,
      recounted_selection hstore hshown extensions, ?_⟩
    intro others hothers hsame
    have hcontains (extension : String) :
        (others.map lowerCase).contains extension =
          (extensions.map lowerCase).contains extension := by
      rw [Bool.eq_iff_iff, List.contains_iff_mem, List.contains_iff_mem]
      exact hsame extension
    simpa only [hcontains] using
      parseDirectory_yields_given hstore hshown settings hregular hothers

def mixedEntries : List (String × Entry) :=
  [("A.PY", .file sampleSource), ("README", .file []), ("b.php", .file sampleSource),
    ("c.json", .file []), ("d.txt", .file [])]

/-- A directory with two languages, one of them with an extension in upper case, and
with files that belong to none. -/
def mixedWorkspace : Workspace where
  files := { entries := [("lib", .directory mixedEntries)] }
  parse := fun _ _ => sampleTree

theorem mixed_parsedFiles :
    parsedFiles mixedWorkspace {} (.ofString "lib") =
      [{ names := ["lib", "A.PY"] }, { names := ["lib", "b.php"] }] := by
  have hlib : Path.ofString "lib" = { names := ["lib"] } := by decide +kernel
  have hseen :
      mixedWorkspace.files.seen? { names := ["lib"] } = .ok (some (.directory mixedEntries)) :=
    rfl
  have hlistable :
      ∀ names ∈ [] :: enteredAll [] mixedEntries,
        mixedWorkspace.files.listingFault? { names := ["lib"] } names = none := by
    decide +kernel
  have hbelow :
      mixedWorkspace.files.filesBelow [] { names := ["lib"] } =
        .ok ((reachedAll [] mixedEntries).map (Path.append { names := ["lib"] })) := by
    refine FileStore.filesBelow_of_listable hseen fun names hnames => ?_
    exact hlistable names (mem_entered_list_iff.mpr hnames)
  have hparsed :
      ((reachedAll [] mixedEntries).map (Path.append { names := ["lib"] })).filter isParsed =
        [{ names := ["lib", "A.PY"] }, { names := ["lib", "b.php"] }] := by
    decide +kernel
  unfold parsedFiles FileStore.filesReached
  rw [show ({} : ExtractionSettings).extraExcludedDirs = [] from rfl, hlib, hseen]
  simp only [hbelow, Except.toOption, Option.getD_some, hparsed]
  exact List.mergeSort_of_pairwise (by decide +kernel)

/-- Without the first file the functions of the second have the numbers one and two. -/
theorem parseDirectory_extensions_mixed :
    ∃ records selected,
      (parseDirectory mixedWorkspace {} (.ofString "lib") Pack.knownExtensions).Yields []
          (.ok records) ∧
        (parseDirectory mixedWorkspace { defaultExtensions := [] } (.ofString "lib") []).Yields []
          (.ok records) ∧
        (parseDirectory mixedWorkspace {} (.ofString "lib") [".Php"]).Yields []
          (.ok selected) ∧
        (parseDirectory mixedWorkspace {} (.ofString "lib") [".PHP", ".php"]).Yields []
          (.ok selected) ∧
        records.map FileRecord.fileName = ["lib/A.PY", "lib/b.php"] ∧
        records.flatMap FileRecord.ids = [1, 2, 3, 4] ∧
        selected.map FileRecord.fileName = ["lib/b.php"] ∧
        selected.flatMap FileRecord.ids = [1, 2] := by
  have hnamed : mixedWorkspace.files.WellNamed := by
    unfold FileStore.WellNamed
    decide +kernel
  have hshown : mixedWorkspace.files.pathFault? "lib" = none := by decide +kernel
  have hregular : mixedWorkspace.Regular := by
    refine ⟨rfl, fun library kind message hraises => ?_⟩
    simp [mixedWorkspace] at hraises
  obtain ⟨records, hknown, hdetected, hselect⟩ :=
    parseDirectory_extensions mixedWorkspace {} "lib" hregular hnamed hshown
  obtain ⟨selected, hselected, _, hothers⟩ := hselect [".Php"] (by simp)
  have hrecords := hknown.ok_inj
    (parseDirectory_yields_given hnamed hshown {} hregular knownExtensions_ne_nil)
  have hkept := hselected.ok_inj
    (parseDirectory_yields_given hnamed hshown {} hregular (by simp))
  have hlower : [".PHP", ".php"].map lowerCase = [".php", ".php"] := by decide +kernel
  have hlowerOne : [".Php"].map lowerCase = [".php"] := by decide +kernel
  rw [filter_known hnamed hshown, mixed_parsedFiles] at hrecords
  rw [mixed_parsedFiles] at hkept
  refine ⟨records, selected, hknown, hdetected [], hselected,
    hothers [".PHP", ".php"] (by simp) ?_, ?_⟩
  · simp [hlower, hlowerOne]
  · rw [hrecords, hkept]
    decide +kernel

end Extractor
end SourceOutline
