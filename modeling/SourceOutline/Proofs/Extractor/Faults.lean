import SourceOutline.Proofs.Extractor.Directory

/-!
# Faults stay in their file

A file whose grammar is known fails because of its source or because of its grammar.
Then it gives an empty record and one warning, which tells the first fault: the source
is looked at before it is measured, measured before it is read, and read before the
grammar is loaded.  Nothing else changes.  A file without a fault gives the records of
its declarations and no such warning.

Two things are not contained but stop the call: a path that the file system cannot be
asked about, and a library that raises an error which loading does not expect.  Even then
the session stays as it was.

Of the session it is assumed that its cache is sound, as it is after any calls.  The cache
may hold a grammar whose library has come to fail; such a grammar is no fault.
-/

namespace SourceOutline

/-- A grammar is neither in a cache nor loadable. -/
def GrammarCache.Lacks (cache : GrammarCache) (faults : LibraryFaults) (grammar : String) :
    Prop :=
  cache.loaded.lookup grammar = none ∧ Grammar.usable? faults grammar = none

theorem Grammar.resolve_some {path grammar : String}
    (hgrammar : (Grammar.resolve path).1 = some grammar) :
    (Grammar.resolve path).2 = [] ∧ ∃ pack, Pack.named? grammar = some pack := by
  have hnamed : ∀ pack ∈ Pack.all, Pack.named? pack.name = some pack := by decide +kernel
  unfold Grammar.resolve at hgrammar ⊢
  simp only at hgrammar ⊢
  split at hgrammar
  next => simp at hgrammar
  next hskipped =>
    rw [if_neg hskipped]
    cases hpack : Pack.forExtension? (Path.ofString path).extension with
    | none =>
        rw [hpack] at hgrammar
        simp at hgrammar
    | some pack =>
        rw [hpack] at hgrammar
        obtain rfl : pack.name = grammar := Option.some.inj hgrammar
        exact ⟨rfl, pack, hnamed pack (List.mem_of_find?_eq_some hpack)⟩

namespace Extractor

open Extraction

/-- A file cannot be read, is too large, or has a grammar that the cache lacks. -/
def HasFault (workspace : Workspace) (settings : ExtractionSettings) (cache : GrammarCache)
    (path : Path) (grammar : String) : Prop :=
  Unreadable workspace path ∨ TooLarge workspace settings path ∨
    cache.Lacks workspace.faults grammar

/-- The first fault of a file: that of its source, or else that of its grammar. -/
inductive FirstFault (workspace : Workspace) (settings : ExtractionSettings)
    (cache : GrammarCache) (path : Path) (grammar : String) : Fault → Prop
  | source {fault : Fault} (hfault : SourceFault workspace settings path fault) :
      FirstFault workspace settings cache path grammar fault
  | grammar {package reason : String} (hread : ¬ Unreadable workspace path)
      (hfits : ¬ TooLarge workspace settings path)
      (hlacks : cache.Lacks workspace.faults grammar) :
      FirstFault workspace settings cache path grammar
        (.grammarUnavailable grammar package reason)

/-- A session to which nothing has happened but a warning. -/
def warned (session : Session) (path : Path) (fault : Fault) : Session :=
  { session with events := session.events ++ [parseFailed path fault] }

def parsedUnit (workspace : Workspace) (settings : ExtractionSettings) (grammar : String)
    (pack : Pack) (source : Bytes) : SourceUnit :=
  SourceUnit.ofSource source (workspace.parse grammar source) pack.comments pack.vocabulary
    settings.commentMaxDistance

variable {workspace : Workspace} {settings : ExtractionSettings} {path : Path}
  {grammar : String}

/-- A file that fails gives an empty record and one warning. -/
theorem failed_runFrom (path : Path) (id : Int) (fault : Fault) (session : Session) :
    (failed path id fault).runFrom session =
      (.ok (extractedAs path id none), warned session path fault) := rfl

theorem assemble_events_name (unit : SourceUnit) (id : Int) :
    ∀ event ∈ (unit.assemble id).events, event.name ≠ "file_parse_failed" := by
  intro event hevent
  obtain ⟨declared, _, hevent⟩ := List.mem_flatMap.mp hevent
  have hname : event.name = "function_found" ∨ event.name = "class_found" := by
    cases declared with
    | function record =>
        obtain rfl := List.mem_singleton.mp hevent
        exact .inl rfl
    | classLike record =>
        rcases List.mem_append.mp hevent with hmethod | hclass
        · obtain ⟨method, _, rfl⟩ := List.mem_map.mp hmethod
          exact .inl rfl
        · obtain rfl := List.mem_singleton.mp hclass
          exact .inr rfl
  rcases hname with hname | hname <;> simp [hname]

/-- What stops the extraction of a file and of everything with it. -/
inductive Breaks (workspace : Workspace) (settings : ExtractionSettings) (cache : GrammarCache)
    (path : Path) (grammar : String) : Stop → Prop
  | path {fault : PathFault} (hpath : workspace.files.pathFault? path.text = some fault) :
      Breaks workspace settings cache path grammar (.path fault)
  | library {pack : Pack} {kind message : String}
      (hpath : workspace.files.pathFault? path.text = none)
      (hread : ¬ Unreadable workspace path) (hfits : ¬ TooLarge workspace settings path)
      (hlookup : cache.loaded.lookup grammar = none) (hpack : Pack.named? grammar = some pack)
      (hraises : workspace.faults.lookup pack.library = some (.raises kind message)) :
      Breaks workspace settings cache path grammar (.raised kind message)

theorem load_of_lacks
    {cache : GrammarCache} {faults : LibraryFaults} (hlacks : cache.Lacks faults grammar) :
    ∃ stop, Grammar.refusal? faults grammar = some stop ∧
      cache.load faults grammar = (.error stop, cache, []) := by
  rcases cache.load_cases faults grammar with
    ⟨loaded, hlookup, _⟩ | ⟨stop, _, hrefusal, hload⟩ | ⟨pack, _, husable, _⟩
  · rw [hlacks.1] at hlookup
    contradiction
  · exact ⟨stop, hrefusal, hload⟩
  · rw [hlacks.2] at husable
    contradiction

/-- Loading a grammar that is not lacking gives an object of it, and tells at most that. -/
theorem load_of_not_lacks
    {cache : GrammarCache} {faults : LibraryFaults} (hsound : cache.Sound)
    (hlacks : ¬ cache.Lacks faults grammar) :
    ∃ loaded next told, cache.load faults grammar = (.ok loaded, next, told) ∧
      loaded.grammar = grammar ∧ ∀ event ∈ told, event.name ≠ "file_parse_failed" := by
  have hgrammar := (hsound.load faults grammar).1
  rcases cache.load_cases faults grammar with
    ⟨loaded, _, hload⟩ | ⟨stop, hlookup, hrefusal, _⟩ | ⟨pack, _, _, hload⟩
  · rw [hload] at hgrammar
    exact ⟨loaded, _, _, hload, hgrammar loaded rfl, by simp⟩
  · exact absurd ⟨hlookup, Grammar.usable?_eq_none_iff.mpr ⟨stop, hrefusal⟩⟩ hlacks
  · exact ⟨_, _, _, hload, rfl, by simp [GrammarCache.grammarLoaded]⟩

/-- What is no fault of this library stops the call and tells nothing. -/
theorem extract_of_breaks
    {session : Session} {stop : Stop}
    (hbreaks : Breaks workspace settings session.cache path grammar stop) (id : Int) :
    (extract workspace settings path grammar id).runFrom session = (.error stop, session) := by
  rw [extract_runFrom]
  cases hbreaks with
  | path hpath =>
      rw [readSource_of_pathFault hpath]
      rfl
  | @library pack kind message hpath hread hfits hlookup hpack hraises =>
      have hrefusal : Grammar.refusal? workspace.faults grammar = some (.raised kind message) := by
        simp only [Grammar.refusal?, hpack, hraises, Option.map_some, LibraryFault.stop]
      obtain ⟨stop, hstop, hload⟩ :=
        load_of_lacks ⟨hlookup, Grammar.usable?_eq_none_iff.mpr ⟨_, hrefusal⟩⟩
      rw [hrefusal] at hstop
      obtain rfl := Option.some.inj hstop
      rcases readSource_cases settings hpath with ⟨fault, _, hsource⟩ | ⟨_, source, _, _, _, hsource⟩
      · rcases (readSource_error_iff settings hpath).mp ⟨_, hsource⟩ with hunread | hlarge
        · exact absurd hunread hread
        · exact absurd hlarge hfits
      · simp only [hsource, hload, List.append_nil]
        rfl

section Unbroken

variable {session : Session}
  (hunbroken : ∀ stop, ¬ Breaks workspace settings session.cache path grammar stop)

include hunbroken

theorem pathFault?_of_unbroken : workspace.files.pathFault? path.text = none := by
  cases hpath : workspace.files.pathFault? path.text with
  | none => rfl
  | some fault => exact absurd (.path hpath) (hunbroken _)

/-- The first fault of a file decides what is told of it. -/
theorem extract_of_hasFault
    (hfault : HasFault workspace settings session.cache path grammar) :
    ∃ fault, FirstFault workspace settings session.cache path grammar fault ∧
      ∀ id, (extract workspace settings path grammar id).runFrom session =
        (.ok (extractedAs path id none), warned session path fault) := by
  have hpath := pathFault?_of_unbroken hunbroken
  rcases readSource_cases settings hpath with
    ⟨fault, hfirst, hsource⟩ | ⟨size, source, hsize, hfits, hcontent, hsource⟩
  · refine ⟨fault, .source hfirst, fun id => ?_⟩
    rw [extract_runFrom, hsource]
    exact failed_runFrom path id fault session
  · -- The source is there, so the fault can only be that of the grammar.
    have hreadable : ¬ Unreadable workspace path := by
      simp [Unreadable, hsize, hcontent]
    have hlacks : session.cache.Lacks workspace.faults grammar :=
      (hfault.resolve_left hreadable).resolve_left hfits
    obtain ⟨stop, hrefusal, hload⟩ := load_of_lacks hlacks
    rcases Grammar.refusal?_cases hrefusal with
      ⟨package, reason, rfl⟩ | ⟨pack, kind, message, hpack, hraises, _⟩
    · refine ⟨.grammarUnavailable grammar package reason, .grammar hreadable hfits hlacks,
        fun id => ?_⟩
      rw [extract_runFrom, hsource]
      simp only [hload, List.append_nil]
      exact failed_runFrom path id _ session
    · exact absurd (.library hpath hreadable hfits hlacks.1 hpack hraises) (hunbroken _)

/-- A file without a fault is read, parsed and assembled. -/
theorem extract_of_not_hasFault
    (hpacks : workspace.packs = Pack.all) (hsound : session.cache.Sound)
    (hgrammar : (Grammar.resolve path.text).1 = some grammar)
    (hfault : ¬ HasFault workspace settings session.cache path grammar) :
    ∃ source pack, workspace.files.read path = .ok source ∧ Pack.named? grammar = some pack ∧
      ∀ id, ∃ final told,
        (extract workspace settings path grammar id).runFrom session =
            (.ok (extractedAs path id (some (parsedUnit workspace settings grammar pack source))),
              final) ∧
          final.events = session.events ++ told ∧
          ∀ event ∈ told, event.name ≠ "file_parse_failed" := by
  obtain ⟨hreadable, hfits, hloads⟩ : ¬ Unreadable workspace path ∧
      ¬ TooLarge workspace settings path ∧ ¬ session.cache.Lacks workspace.faults grammar := by
    simpa only [HasFault, not_or] using hfault
  obtain ⟨_, pack, hpack⟩ := Grammar.resolve_some hgrammar
  have hfound : workspace.packs.find? (·.name == grammar) = some pack := by
    rw [hpacks]
    exact hpack
  obtain ⟨loaded, next, loadTold, hload, hloaded, hquiet⟩ := load_of_not_lacks hsound hloads
  have hpath := pathFault?_of_unbroken hunbroken
  rcases readSource_cases settings hpath with
    ⟨fault, _, hsource⟩ | ⟨_, source, _, _, hcontent, hsource⟩
  · rcases (readSource_error_iff settings hpath).mp ⟨_, hsource⟩ with hunread | hlarge
    · exact absurd hunread hreadable
    · exact absurd hlarge hfits
  · refine ⟨source, pack, hcontent, hpack, fun id => ?_⟩
    let unit := parsedUnit workspace settings grammar pack source
    let assembly := unit.assemble id
    let parsed := fileParsed path grammar (assembly.file path.text) unit.comments.size
    refine ⟨{ cache := next, language := some loaded,
              events := (session.events ++ loadTold) ++ (assembly.events ++ [parsed]) },
      loadTold ++ (assembly.events ++ [parsed]), ?_, List.append_assoc _ _ _, ?_⟩
    · rw [extract_runFrom, hsource]
      simp only [hload, hloaded, assembled, hfound, runFrom_bind, runFrom_tell, runFrom_pure]
      rfl
    · intro event hevent
      rcases List.mem_append.mp hevent with hloadEvent | hevent
      · exact hquiet event hloadEvent
      · rcases List.mem_append.mp hevent with hdeclared | hparsed
        · exact assemble_events_name unit id event hdeclared
        · rw [List.mem_singleton.mp hparsed]
          simp [parsed, fileParsed]

end Unbroken

/-- Both calls for a file tell what extracting it gives. -/
theorem parseFile_of_extract
    {session final : Session} {outcome : Except Stop Extracted}
    (hgrammar : (Grammar.resolve path.text).1 = some grammar)
    (hrun : (extract workspace settings path grammar 1).runFrom session = (outcome, final)) :
    (parseFile workspace settings path).runFrom session =
        (outcome.map Extracted.record, final) ∧
      (parseFileLegacy workspace settings path).runFrom session =
        (outcome.map Extracted.flatten, final) := by
  have hevents := (Grammar.resolve_some hgrammar).1
  have hfound : (extractFile? workspace settings path 1).runFrom session =
      (outcome.map some, final) := by
    unfold extractFile?
    cases hresolve : Grammar.resolve path.text with
    | mk resolved events =>
        rw [hresolve] at hgrammar hevents
        obtain rfl : resolved = some grammar := hgrammar
        obtain rfl : events = [] := hevents
        simp only [runFrom_bind, runFrom_tell, List.append_nil, hrun]
        cases outcome <;> rfl
  constructor
  · unfold parseFile
    simp only [runFrom_bind, hfound]
    cases outcome <;> rfl
  · unfold parseFileLegacy
    simp only [runFrom_bind, hfound]
    cases outcome <;> rfl

/-- A file of no language has an empty record. -/
theorem parseFile_of_unresolved
    (workspace : Workspace) (settings : ExtractionSettings)
    (hgrammar : (Grammar.resolve path.text).1 = none) (session : Session) :
    ((parseFile workspace settings path).runFrom session).1 =
        .ok { fileName := path.text } ∧
      ((parseFileLegacy workspace settings path).runFrom session).1 = .ok [] := by
  unfold parseFile parseFileLegacy extractFile?
  cases hresolve : Grammar.resolve path.text with
  | mk resolved events =>
      rw [hresolve] at hgrammar
      obtain rfl : resolved = none := hgrammar
      simp only [runFrom_bind, runFrom_tell, runFrom_pure, and_self]

/-! ## Directories that cannot be scanned -/

/-- A directory cannot be looked at, is not there, is a file, or has a directory on the way
of a scan that cannot be listed. -/
inductive Unscannable (workspace : Workspace) (settings : ExtractionSettings)
    (directory : Path) : Prop
  | unseen {fault : AccessFault} (hseen : workspace.files.seen? directory = .error fault)
  | missing (hseen : workspace.files.seen? directory = .ok none)
  | file {content : Bytes} (hseen : workspace.files.seen? directory = .ok (some (.file content)))
  | unlisted {entries : List (String × Entry)}
      (hseen : workspace.files.seen? directory = .ok (some (.directory entries)))
      (hlist : ¬ workspace.files.Listable settings.extraExcludedDirs directory entries)

theorem Unscannable.findFiles
    {directory : Path} (hdirectory : Unscannable workspace settings directory)
    (extensions : List String) :
    ∃ fault, workspace.files.findFiles settings.extraExcludedDirs directory extensions =
      .error fault := by
  cases hdirectory with
  | unseen hseen | missing hseen | file hseen =>
      unfold FileStore.findFiles
      rw [hseen]
      exact ⟨_, rfl⟩
  | unlisted hseen hlist =>
      obtain ⟨fault, hfault⟩ :=
        Option.ne_none_iff_exists'.mp (mt FileStore.firstFault?_eq_none.mp hlist)
      exact ⟨fault, (FileStore.scan_stopped hseen (FileStore.firstFault?_eq_some.mp hfault)
        extensions "" []).1⟩

/-- A directory that cannot be scanned gives no records; only if its extensions have to be
detected, the file system must be asked about it. -/
theorem parseDirectory_of_unscannable
    {directory : Path} (hdirectory : Unscannable workspace settings directory)
    (extensions : List String) (session : Session) :
    (workspace.files.pathFault? directory.text = none ∨ extensions ≠ [] →
        ((parseDirectory workspace settings directory extensions).runFrom session).1 = .ok []) ∧
      ∀ fault, workspace.files.pathFault? directory.text = some fault →
        ((parseDirectory workspace settings directory []).runFrom session).1 =
          .error (.path fault) := by
  constructor
  · intro hasked
    have hextensions : ∃ wanted next,
        (extensionsFor workspace settings directory extensions).runFrom session =
          (.ok wanted, next) := by
      unfold extensionsFor
      cases extensions with
      | cons extension rest => exact ⟨_, _, rfl⟩
      | nil =>
          have hpath : workspace.files.pathFault? directory.text = none := by simpa using hasked
          obtain ⟨⟨found, events⟩, hdetect⟩ :=
            detectExtensions_ok settings.extraExcludedDirs directory.text hpath
              settings.defaultExtensions
          simp only [List.isEmpty_nil, if_true, hdetect]
          exact ⟨found, _, rfl⟩
    obtain ⟨wanted, next, hwanted⟩ := hextensions
    obtain ⟨fault, hfound⟩ := hdirectory.findFiles wanted
    unfold parseDirectory scan
    simp only [runFrom_bind, hwanted, hfound, runFrom_tell, runFrom_pure, List.map_nil]
  · intro fault hpath
    unfold parseDirectory scan extensionsFor FileStore.detectExtensions
    simp only [List.isEmpty_nil, if_true, hpath, runFrom_bind, runFrom_throw]

/-- What both calls give for a file of a language: an empty record or list and one warning
if the file has a fault, and the records of its declarations if it has none. -/
structure Contained (workspace : Workspace) (settings : ExtractionSettings) (session : Session)
    (path : Path) (grammar : String) : Prop where
  fails : HasFault workspace settings session.cache path grammar →
    ∃ fault, FirstFault workspace settings session.cache path grammar fault ∧
      (parseFile workspace settings path).runFrom session =
        (.ok { fileName := path.text }, warned session path fault) ∧
      (parseFileLegacy workspace settings path).runFrom session =
        (.ok [], warned session path fault) ∧
      ∀ id, (extract workspace settings path grammar id).runFrom session =
        (.ok { record := { fileName := path.text }, source := none, nextId := id },
          warned session path fault)
  parses : ¬ HasFault workspace settings session.cache path grammar →
    ∃ source pack final told,
      workspace.files.read path = .ok source ∧ Pack.named? grammar = some pack ∧
      (parseFile workspace settings path).runFrom session =
        (.ok (((parsedUnit workspace settings grammar pack source).assemble 1).file path.text),
          final) ∧
      (parseFileLegacy workspace settings path).runFrom session =
        (.ok ((((parsedUnit workspace settings grammar pack source).assemble 1).file
          path.text).flatten (some (Utf8.decode source))), final) ∧
      final.events = session.events ++ told ∧
      ∀ event ∈ told, event.name ≠ "file_parse_failed"

/-- Unless something breaks the call off, a file either has a fault or is assembled. -/
theorem contained_of_resolved
    {session : Session} (hpacks : workspace.packs = Pack.all) (hsound : session.cache.Sound)
    (hgrammar : (Grammar.resolve path.text).1 = some grammar)
    (hunbroken : ∀ stop, ¬ Breaks workspace settings session.cache path grammar stop) :
    Contained workspace settings session path grammar := by
  constructor
  · intro hfault
    obtain ⟨fault, hfirst, hrun⟩ := extract_of_hasFault hunbroken hfault
    have hcalls := parseFile_of_extract hgrammar (hrun 1)
    exact ⟨fault, hfirst, hcalls.1, hcalls.2, hrun⟩
  · intro hfault
    obtain ⟨source, pack, hcontent, hpack, hrun⟩ :=
      extract_of_not_hasFault hunbroken hpacks hsound hgrammar hfault
    obtain ⟨final, told, hrun, htold, hquiet⟩ := hrun 1
    have hcalls := parseFile_of_extract hgrammar hrun
    exact ⟨source, pack, final, told, hcontent, hpack, hcalls.1, hcalls.2, htold, hquiet⟩

theorem Contained.returns
    {session : Session} (hcontained : Contained workspace settings session path grammar) :
    (∃ record, ((parseFile workspace settings path).runFrom session).1 = .ok record) ∧
      ∃ listed, ((parseFileLegacy workspace settings path).runFrom session).1 = .ok listed := by
  by_cases hfault : HasFault workspace settings session.cache path grammar
  · obtain ⟨_, _, hrecord, hlisted, _⟩ := hcontained.fails hfault
    exact ⟨⟨_, by rw [hrecord]⟩, _, by rw [hlisted]⟩
  · obtain ⟨_, _, _, _, _, _, hrecord, hlisted, _⟩ := hcontained.parses hfault
    exact ⟨⟨_, by rw [hrecord]⟩, _, by rw [hlisted]⟩

/-- As long as the packs are complete, parsing a file is stopped exactly if the file system
cannot be asked about its path or its library raises an error that loading does not expect;
then nothing has changed.  Otherwise a file of a language fails exactly if it has a fault:
its record and its list are then empty, the cache and the counter stay as they are, and all
that is told is one warning with the first fault.  A file without a fault gives the records
of its declarations, and no such warning is told.  A file of no language is never a reason
to stop.  A directory that cannot be scanned gives no records, if the file system can be
asked about it or does not have to be. -/
theorem faults_contained
    (workspace : Workspace) (settings : ExtractionSettings) (session : Session)
    (hpacks : workspace.packs = Pack.all) (hsound : session.cache.Sound) :
    (∀ path : Path,
        ((Grammar.resolve path.text).1 = none →
          (∃ record, ((parseFile workspace settings path).runFrom session).1 = .ok record) ∧
            ∃ listed,
              ((parseFileLegacy workspace settings path).runFrom session).1 = .ok listed) ∧
        ∀ grammar, (Grammar.resolve path.text).1 = some grammar →
          (∀ stop, Breaks workspace settings session.cache path grammar stop →
            (parseFile workspace settings path).runFrom session = (.error stop, session) ∧
              (parseFileLegacy workspace settings path).runFrom session =
                (.error stop, session)) ∧
          ((∀ stop, ¬ Breaks workspace settings session.cache path grammar stop) →
            (∃ record, ((parseFile workspace settings path).runFrom session).1 = .ok record) ∧
              (∃ listed,
                ((parseFileLegacy workspace settings path).runFrom session).1 = .ok listed) ∧
              Contained workspace settings session path grammar)) ∧
      ∀ (directory : Path) (extensions : List String),
        Unscannable workspace settings directory →
          (workspace.files.pathFault? directory.text = none ∨ extensions ≠ [] →
            ((parseDirectory workspace settings directory extensions).runFrom session).1 =
              .ok []) ∧
          ∀ fault, workspace.files.pathFault? directory.text = some fault →
            ((parseDirectory workspace settings directory []).runFrom session).1 =
              .error (.path fault) := by
  constructor
  · intro path
    constructor
    · intro hgrammar
      have hempty := parseFile_of_unresolved workspace settings hgrammar session
      exact ⟨⟨_, hempty.1⟩, _, hempty.2⟩
    · intro grammar hgrammar
      constructor
      · intro stop hbreaks
        exact parseFile_of_extract hgrammar (extract_of_breaks hbreaks 1)
      · intro hunbroken
        have hcontained := contained_of_resolved hpacks hsound hgrammar hunbroken
        exact ⟨hcontained.returns.1, hcontained.returns.2, hcontained⟩
  · intro directory extensions hdirectory
    exact parseDirectory_of_unscannable hdirectory extensions session

def lockedPath : Path := { names := ["lib", "c.rb"] }

def openPath : Path := { names := ["lib", "a.py"] }

/-- The sample with a library that raises an error. -/
def brokenWorkspace : Workspace :=
  { sampleWorkspace with faults := [("tree_sitter_ruby", .raises "RuntimeError" "broken")] }

/-- The same where the file that needs this library cannot be read. -/
def lockedWorkspace : Workspace :=
  { brokenWorkspace with
    files := { sampleWorkspace.files with
      access := { unread := fun path =>
        if path = lockedPath then some (.refused 13 "Permission denied") else none } } }

theorem locked_unbroken :
    ∀ stop, ¬ Breaks lockedWorkspace {} {} lockedPath "ruby" stop := by
  intro stop hbreaks
  cases hbreaks with
  | path hpath =>
      have hasked : lockedWorkspace.files.pathFault? lockedPath.text = none := by decide +kernel
      rw [hasked] at hpath
      contradiction
  | library _ hread => exact hread (.inr ⟨.refused 13 "Permission denied", rfl⟩)

theorem python_usable : Grammar.usable? lockedWorkspace.faults "python" ≠ none := by
  decide +kernel

theorem open_not_hasFault : ¬ HasFault lockedWorkspace {} {} openPath "python" := by
  have hsize : lockedWorkspace.files.size openPath = .ok sampleSource.length := rfl
  have hread : lockedWorkspace.files.read openPath = .ok sampleSource := rfl
  rintro ((⟨_, hunseen⟩ | ⟨_, hunread⟩) | hlarge | ⟨_, hnone⟩)
  · rw [hsize] at hunseen
    contradiction
  · rw [hread] at hunread
    contradiction
  · exact absurd ((tooLarge_iff hsize).mp hlarge) (by decide +kernel)
  · exact python_usable hnone

theorem open_unbroken :
    ∀ stop, ¬ Breaks lockedWorkspace {} {} openPath "python" stop := by
  intro stop hbreaks
  cases hbreaks with
  | path hpath =>
      have hasked : lockedWorkspace.files.pathFault? openPath.text = none := by decide +kernel
      rw [hasked] at hpath
      contradiction
  | library _ _ _ _ hpack hraises =>
      refine python_usable ?_
      rw [Grammar.usable?, hpack, Option.filter_some, hraises]
      rfl

theorem ruby_breaks :
    Breaks brokenWorkspace {} {} lockedPath "ruby" (.raised "RuntimeError" "broken") := by
  have hsize : brokenWorkspace.files.size lockedPath = .ok 0 := rfl
  have hread : brokenWorkspace.files.read lockedPath = .ok [] := rfl
  have hpack : Pack.named? "ruby" = some Pack.ruby := rfl
  have hfits : ¬ TooLarge brokenWorkspace {} lockedPath := by
    rw [tooLarge_iff hsize]
    decide +kernel
  exact .library (by decide +kernel) (by simp [Unreadable, hsize, hread]) hfits rfl hpack rfl

/-- A file that cannot be read fails before its library is asked; one that can be read is
stopped by its library. -/
theorem faults_contained_sample :
    (∃ fault, FirstFault lockedWorkspace {} {} lockedPath "ruby" fault ∧
        (parseFile lockedWorkspace {} lockedPath).runFrom {} =
          (.ok { fileName := "lib/c.rb" }, warned {} lockedPath fault)) ∧
      (∃ record final, (parseFile lockedWorkspace {} openPath).runFrom {} = (.ok record, final) ∧
        ∀ event ∈ final.events, event.name ≠ "file_parse_failed") ∧
      ((parseDirectory lockedWorkspace {} lockedPath []).runFrom {}).1 = .ok [] ∧
      (parseFile brokenWorkspace {} lockedPath).runFrom {} =
        (.error (.raised "RuntimeError" "broken"), {}) := by
  obtain ⟨hfiles, hdirectories⟩ :=
    faults_contained lockedWorkspace {} {} rfl GrammarCache.sound_empty
  refine ⟨?locked, ?opened, ?directory, ?broken⟩
  case locked =>
    have hlocked : HasFault lockedWorkspace {} {} lockedPath "ruby" :=
      .inl (.inr ⟨.refused 13 "Permission denied", rfl⟩)
    obtain ⟨_, _, hcontained⟩ :=
      ((hfiles lockedPath).2 "ruby" (by decide +kernel)).2 locked_unbroken
    obtain ⟨fault, hfirst, hrun, _⟩ := hcontained.fails hlocked
    exact ⟨fault, hfirst, hrun⟩
  case opened =>
    obtain ⟨_, _, hcontained⟩ :=
      ((hfiles openPath).2 "python" (by decide +kernel)).2 open_unbroken
    obtain ⟨_, _, final, told, _, _, hrun, _, htold, hquiet⟩ := hcontained.parses open_not_hasFault
    refine ⟨_, final, hrun, ?_⟩
    rw [htold]
    exact hquiet
  case directory =>
    have hseen : lockedWorkspace.files.seen? lockedPath = .ok (some (.file [])) := rfl
    exact (hdirectories lockedPath [] (.file hseen)).1 (.inl (by decide +kernel))
  case broken =>
    obtain ⟨hbroken, _⟩ := faults_contained brokenWorkspace {} {} rfl GrammarCache.sound_empty
    exact (((hbroken lockedPath).2 "ruby" (by decide +kernel)).1 _ ruby_breaks).1

/-- A file of a language whose name has a character outside of ASCII, where the file system
knows no other characters. -/
def accentedPath : Path := { names := ["\u00e9.js"] }

def asciiWorkspace : Workspace where
  files := { encodes := fun _ => false }
  parse := fun _ _ => sampleTree

/-- A path without a null character can stop a call. -/
theorem faults_not_always_contained :
    ¬ ∀ (workspace : Workspace) (settings : ExtractionSettings) (session : Session)
        (path : Path),
      workspace.packs = Pack.all → session.cache.Sound → hasNull path.text = false →
        ∃ record, ((parseFile workspace settings path).runFrom session).1 = .ok record := by
  intro hclaim
  obtain ⟨record, hrecord⟩ :=
    hclaim asciiWorkspace {} {} accentedPath rfl GrammarCache.sound_empty (by decide +kernel)
  have hpath :
      asciiWorkspace.files.pathFault? accentedPath.text = some .unencodable := by
    decide +kernel
  have hgrammar : (Grammar.resolve accentedPath.text).1 = some "javascript" := by decide +kernel
  have hbreaks : Breaks asciiWorkspace {} ({} : Session).cache accentedPath "javascript"
      (.path .unencodable) := .path hpath
  have hstopped := (parseFile_of_extract hgrammar (extract_of_breaks hbreaks 1)).1
  rw [hstopped] at hrecord
  contradiction

end Extractor
end SourceOutline
