import SourceOutline.Proofs.Extractor.Scan
import SourceOutline.Proofs.Files.Find

/-!
# A directory as the sequence of its files

The identifiers that a scan gives are dense: the number of declarations it tells
at its end is the highest of them.  Apart from the identifiers, the records of a
directory are the records of its files, each parsed alone by an extractor that has
done nothing before.  The identifiers of a file are raised by the number of
declarations in front of it.  Files that fail have no declarations and so raise
nothing.
-/

namespace SourceOutline
namespace Extractor

open Extraction

/-! ## Dense identifiers -/

/-- Identifiers are dense.  The records of units that share a counter have all the
identifiers from its first value up to its last one, each once, as many as there
are named declarations.  A scan counts from one, and the number of declarations it
tells at its end is the highest identifier in its records. -/
theorem identifiers_dense :
    (∀ (first : Int) (parts : List (String × SourceUnit)),
        DenseIds first (SourceUnit.assembleAll first parts).2
            (SourceUnit.assembleAll first parts).1 ∧
          (SourceUnit.assembleAll first parts).1.map FileRecord.declarationCount =
            parts.map fun part => part.2.siteCount) ∧
      ∀ (workspace : Workspace) (settings : ExtractionSettings) (directory : Path)
        (extensions : List String) (files : List Path) (session final : Session)
        (records : List FileRecord),
        workspace.files.findFiles settings.extraExcludedDirs directory
            (scannedExtensions workspace settings directory extensions) = .ok files →
          (parseDirectory workspace settings directory extensions).runFrom session =
            (.ok records, final) →
          DenseIds 1 (highestId records + 1) records ∧
            ∃ earlier, final.events = earlier ++
              [⟨.info, "extraction_complete",
                [("directory", .text directory.text), ("files", .int records.length),
                  ("declarations", .int (highestId records))]⟩] := by
  constructor
  · intro first parts
    obtain ⟨hrun, hnext⟩ := SourceUnit.assembleAll_numbered first parts
    rw [hnext]
    exact ⟨hrun.denseIds, SourceUnit.assembleAll_counts first parts⟩
  · intro workspace settings directory extensions files session final records hfiles hrun
    unfold parseDirectory at hrun
    obtain ⟨found, last, hscan, hrun⟩ := runFrom_bind_ok hrun
    cases hrun
    have hnumbered := scan_ensures workspace settings directory extensions session found final hscan
    rw [hnumbered.highestId_eq]
    refine ⟨?_, scan_tells hfiles hscan⟩
    rw [Int.add_comm]
    exact hnumbered.denseIds

def sampleSource : Bytes :=
  ascii "def f(): g()\ndef g(): f()"

def sampleTree : Node :=
  .mk { place := 0, kind := "module", start := 0, stop := 25 }
    [.mk { place := 1, kind := "function_definition", start := 0, stop := 12 }
      [.mk { place := 2, kind := "identifier", start := 4, stop := 5, field := some "name" } []],
      .mk { place := 3, kind := "function_definition", start := 13, stop := 25 }
      [.mk { place := 4, kind := "identifier", start := 17, stop := 18, field := some "name" } []]]

def sampleEntries : List (String × Entry) :=
  [("a.py", .file sampleSource), ("b.py", .file sampleSource), ("c.rb", .file []),
    ("d.json", .file [])]

/-- A directory with two files that can be parsed, one whose grammar cannot be
loaded, and one that belongs to no language. -/
def sampleWorkspace : Workspace where
  files := { entries := [("lib", .directory sampleEntries)] }
  parse := fun _ _ => sampleTree
  faults := [("tree_sitter_ruby", .notInstalled)]

def sampleDirectory : Path := { names := ["lib"] }

def sampleExtensions : List String := [".py", ".rb", ".json"]

def sampleFiles : List Path :=
  [{ names := ["lib", "a.py"] }, { names := ["lib", "b.py"] }, { names := ["lib", "c.rb"] },
    { names := ["lib", "d.json"] }]

theorem sample_findFiles :
    sampleWorkspace.files.findFiles ({} : ExtractionSettings).extraExcludedDirs sampleDirectory
        (scannedExtensions sampleWorkspace {} sampleDirectory sampleExtensions) =
      .ok sampleFiles := by
  have hseen :
      sampleWorkspace.files.seen? sampleDirectory = .ok (some (.directory sampleEntries)) := rfl
  have hlistable :
      ∀ names ∈ [] :: enteredAll [] sampleEntries,
        sampleWorkspace.files.listingFault? sampleDirectory names = none := by
    decide +kernel
  have hbelow :
      sampleWorkspace.files.filesBelow [] sampleDirectory =
        .ok ((reachedAll [] sampleEntries).map sampleDirectory.append) := by
    refine FileStore.filesBelow_of_listable hseen fun names hnames => ?_
    exact hlistable names (mem_entered_list_iff.mpr hnames)
  have hwanted :
      (((reachedAll [] sampleEntries).map sampleDirectory.append).filter fun file =>
        (sampleExtensions.map lowerCase).contains file.extension) = sampleFiles := by
    decide +kernel
  have hordered : sampleFiles.mergeSort Path.before = sampleFiles :=
    List.mergeSort_of_pairwise (by decide +kernel)
  have hfound :
      sampleWorkspace.files.findFiles [] sampleDirectory sampleExtensions = .ok sampleFiles := by
    unfold FileStore.findFiles
    simp only [hseen, hbelow, Except.map, hwanted, hordered]
  exact hfound

theorem sample_regular : sampleWorkspace.Regular := by
  refine ⟨rfl, fun library kind message hraises => ?_⟩
  have hfaults : sampleWorkspace.faults = [("tree_sitter_ruby", .notInstalled)] := rfl
  rw [hfaults, List.lookup_cons] at hraises
  split at hraises <;> simp at hraises

theorem sample_pathFault? :
    ∀ path ∈ sampleFiles, sampleWorkspace.files.pathFault? path.text = none := by
  decide +kernel

theorem sample_scan :
    (scan sampleWorkspace {} sampleDirectory sampleExtensions).Yields sampleWorkspace.faults
      (.ok (extractedAll sampleWorkspace {} 1 (sampleFiles.filter isParsed))) :=
  scan_yields_of_findFiles sample_regular sample_findFiles sample_pathFault?

theorem identifiers_dense_sample :
    ∃ records final earlier,
      (parseDirectory sampleWorkspace {} sampleDirectory sampleExtensions).runFrom {} =
          (.ok records, final) ∧
        records.length = 3 ∧
        final.events = earlier ++
          [⟨.info, "extraction_complete",
            [("directory", .text "lib"), ("files", .int 3), ("declarations", .int 4)]⟩] := by
  let records := (extractedAll sampleWorkspace {} 1 (sampleFiles.filter isParsed)).map
    Extracted.record
  have hyields :
      (parseDirectory sampleWorkspace {} sampleDirectory sampleExtensions).Yields
        sampleWorkspace.faults (.ok records) :=
    sample_scan.bind (Yields.pure _ _)
  have houtcome := (hyields {} (GrammarCache.usable_empty _)).1
  cases hrun : (parseDirectory sampleWorkspace {} sampleDirectory sampleExtensions).runFrom {} with
  | mk outcome final =>
      rw [hrun] at houtcome
      obtain rfl : outcome = .ok records := houtcome
      obtain ⟨_, earlier, htold⟩ :=
        identifiers_dense.2 sampleWorkspace {} sampleDirectory sampleExtensions sampleFiles {}
          final records sample_findFiles hrun
      have hlength : records.length = 3 := by decide +kernel
      have hhighest : highestId records = 4 := by decide +kernel
      rw [hhighest, hlength] at htold
      exact ⟨records, final, earlier, rfl, hlength, htold⟩

/-! ## One file of many -/

variable {workspace : Workspace} {settings : ExtractionSettings}

/-- A file moves the counter on by the declarations that it has. -/
theorem extractedAs_nextId (path : Path) (id : Int) (unit : Option SourceUnit) :
    (extractedAs path id unit).nextId =
      id + (extractedAs path id unit).record.declarationCount := by
  cases unit with
  | none => simp [extractedAs, FileRecord.declarationCount]
  | some unit =>
      simp only [extractedAs, SourceUnit.file_declarationCount_eq_siteCount]
      exact unit.assemble_nextId id

theorem extractedAs_raised (path : Path) (id amount : Int) (unit : Option SourceUnit) :
    (extractedAs path (id + amount) unit).record =
      (extractedAs path id unit).record.raised amount := by
  cases unit with
  | none => rfl
  | some unit => exact unit.assemble_file_raised id amount path.text

theorem extractedAll_length
    (workspace : Workspace) (settings : ExtractionSettings) (id : Int) (paths : List Path) :
    (extractedAll workspace settings id paths).length = paths.length := by
  induction paths generalizing id with
  | nil => rfl
  | cons path rest ih =>
      rw [extractedAll, List.length_cons, List.length_cons, ih]

theorem extractedAll_getElem?
    (workspace : Workspace) (settings : ExtractionSettings) (id : Int)
    {paths : List Path} {index : Nat} {path : Path} (hpath : paths[index]? = some path) :
    (extractedAll workspace settings id paths)[index]? =
      some (extractedAs path
        (id + declarationTotal
          (((extractedAll workspace settings id paths).map Extracted.record).take index))
        (unitAt? workspace settings path)) := by
  induction paths generalizing id index with
  | nil => simp at hpath
  | cons first rest ih =>
      cases index with
      | zero =>
          rw [List.getElem?_cons_zero, Option.some.injEq] at hpath
          rw [← hpath]
          simp [extractedAll]
      | succ index =>
          rw [List.getElem?_cons_succ] at hpath
          have hrest := ih (extractedAs first id (unitAt? workspace settings first)).nextId hpath
          have hcounter := extractedAs_nextId first id (unitAt? workspace settings first)
          rw [extractedAll, List.getElem?_cons_succ, hrest, List.map_cons, List.take_succ_cons,
            declarationTotal_cons, Int.natCast_add, ← Int.add_assoc, ← hcounter]

/-- A file by itself is numbered from one on. -/
theorem parseFile_yields
    (settings : ExtractionSettings) (hregular : workspace.Regular) {path : Path}
    (hpath : workspace.files.pathFault? path.text = none) (hparsed : isParsed path = true) :
    (parseFile workspace settings path).Yields workspace.faults
      (.ok (extractedAs path 1 (unitAt? workspace settings path)).record) :=
  (extractFile?_yields_of_isParsed hregular hpath hparsed 1).bind (Yields.pure _ _)

/-- A file cannot be read, is too large, or has a grammar that cannot be loaded. -/
def Fails (workspace : Workspace) (settings : ExtractionSettings) (path : Path) : Prop :=
  Unreadable workspace path ∨ TooLarge workspace settings path ∨
    ∃ grammar, (Grammar.resolve path.text).1 = some grammar ∧
      Grammar.usable? workspace.faults grammar = none

/-- A file that fails has nothing to assemble. -/
theorem Fails.unitAt?_eq_none
    {path : Path} (hpath : workspace.files.pathFault? path.text = none)
    (hfails : Fails workspace settings path) : unitAt? workspace settings path = none := by
  have hsource (hfault : Unreadable workspace path ∨ TooLarge workspace settings path) :
      unitAt? workspace settings path = none := by
    obtain ⟨stop, hstop⟩ := (readSource_error_iff settings hpath).mpr hfault
    exact unitAt?_of_unreadable hstop
  rcases hfails with hread | hlarge | ⟨grammar, hgrammar, hnone⟩
  · exact hsource (.inl hread)
  · exact hsource (.inr hlarge)
  · exact unitAt?_of_refused hgrammar hnone

/-- The records of a directory are the records of its files, each parsed alone and
then raised by the number of declarations in the files before it.  A file that
fails has an empty record and raises nothing.  The scan may begin with any cache
that loads can have made; every path can be asked for if it is that of a file. -/
theorem parseDirectory_eq_parseFile
    (workspace : Workspace) (settings : ExtractionSettings) (directory : Path)
    (extensions : List String) (files : List Path) (session : Session)
    (hregular : workspace.Regular)
    (hcache : session.cache.Usable workspace.faults)
    (hfound : workspace.files.findFiles settings.extraExcludedDirs directory
      (scannedExtensions workspace settings directory extensions) = .ok files)
    (hfiles : ∀ path ∈ files, workspace.files.pathFault? path.text = none) :
    ∃ records,
      ((parseDirectory workspace settings directory extensions).runFrom session).1 =
          .ok records ∧
        records.length = (files.filter isParsed).length ∧
        ∀ index path,
          (files.filter isParsed)[index]? = some path →
            ∃ single,
              ((parseFile workspace settings path).runFrom {}).1 = .ok single ∧
                records[index]? =
                  some (single.raised (declarationTotal (records.take index))) ∧
                (Fails workspace settings path →
                  records[index]? = some { fileName := path.text } ∧
                    declarationTotal (records.take (index + 1)) =
                      declarationTotal (records.take index)) := by
  let found := extractedAll workspace settings 1 (files.filter isParsed)
  let records := found.map Extracted.record
  have hrun :
      (parseDirectory workspace settings directory extensions).Yields workspace.faults
        (.ok records) :=
    (scan_yields_of_findFiles hregular hfound hfiles).bind (Yields.pure _ _)
  refine ⟨records, (hrun session hcache).1, ?_, ?_⟩
  · rw [List.length_map, extractedAll_length]
  · intro index path hpath
    have hmem := List.mem_filter.mp (List.mem_of_getElem? hpath)
    have hsingle := parseFile_yields settings hregular (hfiles path hmem.1) hmem.2
    have hrecord :
        records[index]? =
          some (extractedAs path (1 + declarationTotal (records.take index))
            (unitAt? workspace settings path)).record := by
      rw [List.getElem?_map, extractedAll_getElem? workspace settings 1 hpath]
      rfl
    refine ⟨_, (hsingle {} (GrammarCache.usable_empty _)).1, ?_, ?_⟩
    · rw [hrecord, extractedAs_raised]
    · intro hfails
      rw [hfails.unitAt?_eq_none (hfiles path hmem.1)] at hrecord
      refine ⟨hrecord, ?_⟩
      rw [List.take_add_one, declarationTotal_append, hrecord]
      rfl

theorem parseDirectory_eq_parseFile_sample :
    ∃ records,
      ((parseDirectory sampleWorkspace {} sampleDirectory sampleExtensions).runFrom {}).1 =
          .ok records ∧
        records.length = 3 ∧
        ∃ single,
          ((parseFile sampleWorkspace {} { names := ["lib", "b.py"] }).runFrom {}).1 =
              .ok single ∧
            records[1]? = some (single.raised (declarationTotal (records.take 1))) ∧
            records[2]? = some { fileName := "lib/c.rb" } := by
  obtain ⟨records, hrun, hlength, hrecords⟩ :=
    parseDirectory_eq_parseFile sampleWorkspace {} sampleDirectory sampleExtensions sampleFiles {}
      sample_regular (GrammarCache.usable_empty _) sample_findFiles sample_pathFault?
  have hparsed : sampleFiles.filter isParsed = sampleFiles.take 3 := by decide +kernel
  rw [hparsed] at hlength hrecords
  have hfails : Fails sampleWorkspace {} { names := ["lib", "c.rb"] } := by
    refine .inr (.inr ⟨"ruby", ?_, ?_⟩) <;> decide +kernel
  obtain ⟨single, hsingle, hraised, _⟩ := hrecords 1 { names := ["lib", "b.py"] } rfl
  obtain ⟨_, _, _, hempty⟩ := hrecords 2 { names := ["lib", "c.rb"] } rfl
  exact ⟨records, hrun, hlength, single, hsingle, hraised, (hempty hfails).1⟩

end Extractor
end SourceOutline
