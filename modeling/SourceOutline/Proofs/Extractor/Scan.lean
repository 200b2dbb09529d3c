import SourceOutline.Proofs.Declaration.Numbering
import SourceOutline.Proofs.Extractor.Run
import SourceOutline.Proofs.Extractor.Source

/-!
# What a scan gives

A scan hands its counter from file to file.  A file that fails makes an empty
record and hands on the counter as it was, so the records of a scan are numbered
like those of units assembled one after the other, from one on.  This holds of
every scan that is not stopped.

As long as the packs are complete, libraries fail only as loading expects and the
file system can be asked about every path, no scan is stopped.  What it gives is
then described without a session: the files that belong to a language, each as its
unit assembled with the counter that the files before it have left.
-/

namespace SourceOutline
namespace Extractor

open Extraction

/-! ## Numbers -/

def Extracted.NumberedFrom (id : Int) (extracted : Extracted) : Prop :=
  extracted.record.NumberedFrom id ∧
    extracted.nextId = id + extracted.record.declarationCount

theorem empty_numbered (id : Int) (fileName : String) :
    FileRecord.NumberedFrom id { fileName } := by
  constructor <;> simp [FileRecord.ids, FileRecord.declarationCount]

theorem failed_ensures (path : Path) (id : Int) (fault : Fault) :
    (failed path id fault).Ensures (Extracted.NumberedFrom id) := by
  unfold failed
  refine Ensures.bind_any ?_
  intro _
  refine Ensures.pure ?_
  exact ⟨empty_numbered id path.text, by simp [FileRecord.declarationCount]⟩

theorem assembled_ensures
    (workspace : Workspace) (settings : ExtractionSettings) (path : Path) (grammar : String)
    (id : Int) (source : Bytes) (root : Node) :
    (assembled workspace settings path grammar id source root).Ensures
      (Extracted.NumberedFrom id) := by
  unfold assembled
  cases workspace.packs.find? (·.name == grammar) with
  | none => exact Ensures.throw _ _
  | some pack =>
      refine Ensures.bind_any ?_
      intro _
      refine Ensures.pure ?_
      refine ⟨SourceUnit.assemble_numbered _ id path.text, ?_⟩
      rw [SourceUnit.file_declarationCount_eq_siteCount]
      exact SourceUnit.assemble_nextId _ id

theorem extract_ensures
    (workspace : Workspace) (settings : ExtractionSettings) (path : Path)
    (grammar : String) (id : Int) :
    (extract workspace settings path grammar id).Ensures (Extracted.NumberedFrom id) := by
  unfold extract
  refine Ensures.bind_any ?_
  intro prepared
  cases prepared with
  | error stop =>
      cases stop with
      | fault fault => exact failed_ensures path id fault
      | path fault => exact Ensures.throw _ _
      | raised kind message => exact Ensures.throw _ _
      | noLanguage => exact Ensures.throw _ _
  | ok source =>
      refine Ensures.bind_any ?_
      intro root
      exact assembled_ensures workspace settings path grammar id source root

theorem extractFile?_ensures
    (workspace : Workspace) (settings : ExtractionSettings) (path : Path) (id : Int) :
    (extractFile? workspace settings path id).Ensures
      fun found => ∀ extracted ∈ found, extracted.NumberedFrom id := by
  unfold extractFile?
  cases Grammar.resolve path.text with
  | mk resolved events =>
      refine Ensures.bind_any ?_
      intro _
      cases resolved with
      | none =>
          refine Ensures.pure ?_
          intro extracted hfound
          contradiction
      | some grammar =>
          refine Ensures.bind (extract_ensures workspace settings path grammar id) ?_
          intro extracted hextracted
          refine Ensures.pure ?_
          intro found hfound
          cases hfound
          exact hextracted

theorem extractAll_ensures
    (workspace : Workspace) (settings : ExtractionSettings) (id : Int) (paths : List Path) :
    (extractAll workspace settings id paths).Ensures
      fun found => NumberedRun id (found.map Extracted.record) := by
  induction paths generalizing id with
  | nil => exact Ensures.pure trivial
  | cons path rest ih =>
      unfold extractAll
      refine Ensures.bind (extractFile?_ensures workspace settings path id) ?_
      intro found hfound
      cases found with
      | none => exact ih id
      | some extracted =>
          obtain ⟨hrecord, hnext⟩ := hfound extracted rfl
          refine Ensures.bind (ih extracted.nextId) ?_
          intro others hothers
          refine Ensures.pure ?_
          rw [hnext] at hothers
          exact ⟨hrecord, hothers⟩

theorem scan_ensures
    (workspace : Workspace) (settings : ExtractionSettings) (directory : Path)
    (extensions : List String) :
    (scan workspace settings directory extensions).Ensures
      fun found => NumberedRun 1 (found.map Extracted.record) := by
  unfold scan
  refine Ensures.bind_any ?_
  intro wanted
  cases workspace.files.findFiles settings.extraExcludedDirs directory wanted with
  | error fault =>
      refine Ensures.bind_any ?_
      intro _
      exact Ensures.pure trivial
  | ok files =>
      refine Ensures.bind_any ?_
      intro _
      refine Ensures.bind (extractAll_ensures workspace settings 1 files) ?_
      intro found hfound
      refine Ensures.bind_any ?_
      intro _
      exact Ensures.pure hfound

/-! ## Events -/

def scannedExtensions (workspace : Workspace) (settings : ExtractionSettings)
    (directory : Path) (extensions : List String) : List String :=
  if extensions.isEmpty then
    match workspace.files.detectExtensions settings.extraExcludedDirs directory.text directory
        settings.defaultExtensions with
    | .error _ => []
    | .ok (found, _) => found
  else extensions

theorem extensionsFor_ensures
    (workspace : Workspace) (settings : ExtractionSettings) (directory : Path)
    (extensions : List String) :
    (extensionsFor workspace settings directory extensions).Ensures
      fun wanted => wanted = scannedExtensions workspace settings directory extensions := by
  unfold extensionsFor scannedExtensions
  cases extensions.isEmpty with
  | false => exact Ensures.pure rfl
  | true =>
      rw [if_pos rfl, if_pos rfl]
      cases workspace.files.detectExtensions settings.extraExcludedDirs directory.text directory
          settings.defaultExtensions with
      | error fault => exact Ensures.throw _ _
      | ok detected =>
          refine Ensures.bind_any ?_
          intro _
          exact Ensures.pure rfl

/-- The last event of a scan tells how much was extracted. -/
theorem scan_tells
    {workspace : Workspace} {settings : ExtractionSettings} {directory : Path}
    {extensions : List String} {files : List Path} {session final : Session}
    {found : List Extracted}
    (hfiles : workspace.files.findFiles settings.extraExcludedDirs directory
      (scannedExtensions workspace settings directory extensions) = .ok files)
    (hrun : (scan workspace settings directory extensions).runFrom session =
      (.ok found, final)) :
    ∃ earlier, final.events =
      earlier ++ [extractionComplete directory (found.map Extracted.record)] := by
  unfold scan at hrun
  obtain ⟨wanted, _, hwanted, hrun⟩ := runFrom_bind_ok hrun
  rw [extensionsFor_ensures _ _ _ _ _ _ _ hwanted, hfiles] at hrun
  obtain ⟨_, _, _, hrun⟩ := runFrom_bind_ok hrun
  obtain ⟨extracted, last, _, hrun⟩ := runFrom_bind_ok hrun
  rw [runFrom_bind, runFrom_tell] at hrun
  cases hrun
  exact ⟨last.events, rfl⟩

/-! ## Outcomes -/

/-- The unit of a file that belongs to a language, can be read and has a grammar
that can be used. -/
def unitAt? (workspace : Workspace) (settings : ExtractionSettings) (path : Path) :
    Option SourceUnit :=
  (Grammar.resolve path.text).1.bind fun grammar =>
    (readSource workspace settings path).toOption.bind fun source =>
      (Grammar.usable? workspace.faults grammar).map fun pack =>
        SourceUnit.ofSource source (workspace.parse grammar source) pack.comments
          pack.vocabulary settings.commentMaxDistance

def extractedAs (path : Path) (id : Int) : Option SourceUnit → Extracted
  | none => { record := { fileName := path.text }, source := none, nextId := id }
  | some unit =>
      { record := (unit.assemble id).file path.text
        source := some unit.source
        nextId := (unit.assemble id).nextId }

variable {workspace : Workspace} {settings : ExtractionSettings}

theorem failed_yields (faults : LibraryFaults) (path : Path) (id : Int) (fault : Fault) :
    (failed path id fault).Yields faults (.ok (extractedAs path id none)) :=
  (Yields.tell faults _).bind (Yields.pure faults _)

theorem unitAt?_of_unreadable
    {path : Path} {stop : Stop}
    (hsource : readSource workspace settings path = .error stop) :
    unitAt? workspace settings path = none := by
  unfold unitAt?
  cases (Grammar.resolve path.text).1 with
  | none => rfl
  | some grammar =>
      rw [hsource]
      rfl

theorem unitAt?_of_readable
    {path : Path} {grammar : String} {source : Bytes}
    (hgrammar : (Grammar.resolve path.text).1 = some grammar)
    (hsource : readSource workspace settings path = .ok source) :
    unitAt? workspace settings path =
      (Grammar.usable? workspace.faults grammar).map fun pack =>
        SourceUnit.ofSource source (workspace.parse grammar source) pack.comments
          pack.vocabulary settings.commentMaxDistance := by
  unfold unitAt?
  rw [hgrammar, hsource]
  rfl

theorem unitAt?_of_refused
    {path : Path} {grammar : String} (hgrammar : (Grammar.resolve path.text).1 = some grammar)
    (hnone : Grammar.usable? workspace.faults grammar = none) :
    unitAt? workspace settings path = none := by
  cases hsource : readSource workspace settings path with
  | error stop => exact unitAt?_of_unreadable hsource
  | ok source =>
      rw [unitAt?_of_readable hgrammar hsource, hnone]
      rfl

theorem assembled_yields
    {workspace : Workspace} (settings : ExtractionSettings) (path : Path) {grammar : String}
    {pack : Pack} (hfound : workspace.packs.find? (·.name == grammar) = some pack) (id : Int)
    (source : Bytes) (root : Node) (faults : LibraryFaults) :
    (assembled workspace settings path grammar id source root).Yields faults
      (.ok (extractedAs path id (some (SourceUnit.ofSource source root pack.comments
        pack.vocabulary settings.commentMaxDistance)))) := by
  unfold assembled
  rw [hfound]
  exact (Yields.tell _ _).bind (Yields.pure _ _)

/-- From every usable session a file gives the same. -/
theorem extract_yields
    (settings : ExtractionSettings) (hregular : workspace.Regular)
    {path : Path} (hpath : workspace.files.pathFault? path.text = none)
    {grammar : String} (hgrammar : (Grammar.resolve path.text).1 = some grammar) (id : Int) :
    (extract workspace settings path grammar id).Yields workspace.faults
      (.ok (extractedAs path id (unitAt? workspace settings path))) := by
  apply extract_yields_of
  · intro stop hsource
    rw [unitAt?_of_unreadable hsource]
    rcases readSource_cases settings hpath with ⟨fault, _, hfault⟩ | ⟨_, _, _, _, _, hok⟩
    · rw [hsource] at hfault
      rw [Except.error.inj hfault]
      exact failed_yields _ path id fault
    · rw [hsource] at hok
      cases hok
  · intro source stop _ hrefusal
    rw [unitAt?_of_refused hgrammar (Grammar.usable?_eq_none_iff.mpr ⟨stop, hrefusal⟩)]
    obtain ⟨package, reason, rfl⟩ := Grammar.refusal?_of_expected hregular.libraries hrefusal
    exact failed_yields _ path id _
  · intro source pack hsource husable
    have hfound : workspace.packs.find? (·.name == grammar) = some pack := by
      rw [hregular.packs]
      exact Grammar.named?_of_usable? husable
    rw [unitAt?_of_readable hgrammar hsource, husable, Option.map_some]
    exact assembled_yields settings path hfound id source _ _

def isParsed (path : Path) : Bool :=
  (Grammar.resolve path.text).1.isSome

theorem extractFile?_yields_of_isParsed
    (hregular : workspace.Regular) {path : Path}
    (hpath : workspace.files.pathFault? path.text = none) (hparsed : isParsed path = true)
    (id : Int) :
    (extractFile? workspace settings path id).Yields workspace.faults
      (.ok (some (extractedAs path id (unitAt? workspace settings path)))) := by
  obtain ⟨grammar, hgrammar⟩ := Option.isSome_iff_exists.mp hparsed
  have hextract := extract_yields settings hregular hpath hgrammar id
  unfold extractFile?
  cases hresolve : Grammar.resolve path.text with
  | mk resolved events =>
      rw [hresolve] at hgrammar
      obtain rfl : resolved = some grammar := hgrammar
      exact (Yields.tell _ _).bind (hextract.bind (Yields.pure _ _))

theorem extractFile?_yields_of_not_isParsed
    (faults : LibraryFaults) {path : Path} (hparsed : isParsed path = false) (id : Int) :
    (extractFile? workspace settings path id).Yields faults (.ok none) := by
  unfold isParsed at hparsed
  unfold extractFile?
  cases hresolve : Grammar.resolve path.text with
  | mk resolved events =>
      rw [hresolve] at hparsed
      obtain rfl : resolved = none := by simpa using hparsed
      exact (Yields.tell _ _).bind (Yields.pure _ _)

def extractedAll (workspace : Workspace) (settings : ExtractionSettings) (id : Int) :
    List Path → List Extracted
  | [] => []
  | path :: rest =>
      let extracted := extractedAs path id (unitAt? workspace settings path)
      extracted :: extractedAll workspace settings extracted.nextId rest

theorem extractAll_yields
    (hregular : workspace.Regular) {paths : List Path}
    (hpaths : ∀ path ∈ paths, workspace.files.pathFault? path.text = none) (id : Int) :
    (extractAll workspace settings id paths).Yields workspace.faults
      (.ok (extractedAll workspace settings id (paths.filter isParsed))) := by
  induction paths generalizing id with
  | nil => exact Yields.pure _ _
  | cons path rest ih =>
      have hrest := ih fun other hother => hpaths other (List.mem_cons_of_mem path hother)
      unfold extractAll
      cases hparsed : isParsed path with
      | false =>
          rw [List.filter_cons_of_neg (by simp [hparsed])]
          exact (extractFile?_yields_of_not_isParsed _ hparsed id).bind (hrest id)
      | true =>
          rw [List.filter_cons_of_pos hparsed]
          have hfirst :
              (extractFile? workspace settings path id).Yields workspace.faults
                (.ok (some (extractedAs path id (unitAt? workspace settings path)))) :=
            extractFile?_yields_of_isParsed hregular (hpaths path (by simp)) hparsed id
          refine hfirst.bind ?_
          exact (hrest _).bind (Yields.pure _ _)

/-- The files that a scan comes to, none when the directory cannot be scanned. -/
def scannedFiles (workspace : Workspace) (settings : ExtractionSettings)
    (directory : Path) (extensions : List String) : List Path :=
  match workspace.files.findFiles settings.extraExcludedDirs directory
      (scannedExtensions workspace settings directory extensions) with
  | .error _ => []
  | .ok files => files

theorem detectExtensions_ok
    {store : FileStore} (extra : List String) (shown : String) {directory : Path}
    (hpath : store.pathFault? directory.text = none) (defaults : List String) :
    ∃ detected, store.detectExtensions extra shown directory defaults = .ok detected := by
  unfold FileStore.detectExtensions
  simp only [hpath]
  split
  · exact ⟨_, rfl⟩
  · split <;> exact ⟨_, rfl⟩

theorem extensionsFor_yields
    (settings : ExtractionSettings) {directory : Path} {extensions : List String}
    (hdirectory : extensions = [] → workspace.files.pathFault? directory.text = none)
    (faults : LibraryFaults) :
    (extensionsFor workspace settings directory extensions).Yields faults
      (.ok (scannedExtensions workspace settings directory extensions)) := by
  unfold extensionsFor scannedExtensions
  cases extensions with
  | cons extension rest => exact Yields.pure _ _
  | nil =>
      obtain ⟨⟨found, events⟩, hdetect⟩ :=
        detectExtensions_ok settings.extraExcludedDirs directory.text (hdirectory rfl)
          settings.defaultExtensions
      simp only [List.isEmpty_nil, if_true, hdetect]
      exact (Yields.tell _ _).bind (Yields.pure _ _)

/-- From every usable session a directory gives the same. -/
theorem scan_yields
    (hregular : workspace.Regular) {directory : Path} {extensions : List String}
    (hdirectory : extensions = [] → workspace.files.pathFault? directory.text = none)
    (hfiles : ∀ path ∈ scannedFiles workspace settings directory extensions,
      workspace.files.pathFault? path.text = none) :
    (scan workspace settings directory extensions).Yields workspace.faults
      (.ok (extractedAll workspace settings 1
        ((scannedFiles workspace settings directory extensions).filter isParsed))) := by
  unfold scan
  refine (extensionsFor_yields settings hdirectory workspace.faults).bind ?_
  unfold scannedFiles at hfiles ⊢
  cases hfound : workspace.files.findFiles settings.extraExcludedDirs directory
      (scannedExtensions workspace settings directory extensions) with
  | error fault => exact (Yields.tell _ _).bind (Yields.pure _ _)
  | ok files =>
      rw [hfound] at hfiles
      refine (Yields.tell _ _).bind ?_
      refine (extractAll_yields hregular hfiles 1).bind ?_
      exact (Yields.tell _ _).bind (Yields.pure _ _)

theorem scan_yields_of_findFiles
    (hregular : workspace.Regular) {directory : Path} {extensions : List String}
    {files : List Path}
    (hfound : workspace.files.findFiles settings.extraExcludedDirs directory
      (scannedExtensions workspace settings directory extensions) = .ok files)
    (hfiles : ∀ path ∈ files, workspace.files.pathFault? path.text = none) :
    (scan workspace settings directory extensions).Yields workspace.faults
      (.ok (extractedAll workspace settings 1 (files.filter isParsed))) := by
  have hscanned : scannedFiles workspace settings directory extensions = files := by
    unfold scannedFiles
    rw [hfound]
  have hdirectory : workspace.files.pathFault? directory.text = none := by
    cases hpath : workspace.files.pathFault? directory.text with
    | none => rfl
    | some fault => simp [FileStore.findFiles, FileStore.seen?, hpath] at hfound
  rw [← hscanned] at hfiles ⊢
  exact scan_yields hregular (fun _ => hdirectory) hfiles

/-! ## Independence of the session -/

theorem contain_settled (faults : LibraryFaults) (path : Path) (id : Int) (stop : Stop) :
    (contain path id stop).Settled faults := by
  cases stop with
  | fault fault => exact ⟨_, failed_yields faults path id fault⟩
  | path fault => exact ⟨_, Yields.throw _ _⟩
  | raised kind message => exact ⟨_, Yields.throw _ _⟩
  | noLanguage => exact ⟨_, Yields.throw _ _⟩

theorem assembled_settled
    (workspace : Workspace) (settings : ExtractionSettings) (path : Path) (grammar : String)
    (id : Int) (source : Bytes) (root : Node) (faults : LibraryFaults) :
    (assembled workspace settings path grammar id source root).Settled faults := by
  cases hfound : workspace.packs.find? (·.name == grammar) with
  | none =>
      unfold assembled
      rw [hfound]
      exact ⟨_, Yields.throw _ _⟩
  | some pack => exact ⟨_, assembled_yields settings path hfound id source root faults⟩

theorem extract_settled
    (workspace : Workspace) (settings : ExtractionSettings) (path : Path)
    (grammar : String) (id : Int) :
    (extract workspace settings path grammar id).Settled workspace.faults := by
  cases hsource : readSource workspace settings path with
  | error stop =>
      obtain ⟨outcome, hcontain⟩ := contain_settled workspace.faults path id stop
      refine ⟨outcome, extract_yields_of ?_ (by simp [hsource]) (by simp [hsource])⟩
      intro other hother
      rw [hsource] at hother
      rw [← Except.error.inj hother]
      exact hcontain
  | ok source =>
      cases husable : Grammar.usable? workspace.faults grammar with
      | none =>
          obtain ⟨stop, hrefusal⟩ := Grammar.usable?_eq_none_iff.mp husable
          obtain ⟨outcome, hcontain⟩ := contain_settled workspace.faults path id stop
          refine ⟨outcome, extract_yields_of (by simp [hsource]) ?_ (by simp [husable])⟩
          intro _ other _ hother
          rw [hrefusal] at hother
          rw [← Option.some.inj hother]
          exact hcontain
      | some pack =>
          obtain ⟨outcome, hassembled⟩ := assembled_settled workspace settings path grammar id
            source (workspace.parse grammar source) workspace.faults
          refine ⟨outcome, extract_yields_of (by simp [hsource]) ?_ ?_⟩
          · intro _ stop _ hrefusal
            rw [Grammar.usable?_eq_none_iff.mpr ⟨stop, hrefusal⟩] at husable
            contradiction
          · intro other _ hother _
            rw [hsource] at hother
            rw [← Except.ok.inj hother]
            exact hassembled

theorem extractFile?_settled
    (workspace : Workspace) (settings : ExtractionSettings) (path : Path) (id : Int) :
    (extractFile? workspace settings path id).Settled workspace.faults := by
  unfold extractFile?
  cases Grammar.resolve path.text with
  | mk resolved events =>
      refine Settled.bind ⟨_, Yields.tell _ _⟩ ?_
      intro _
      cases resolved with
      | none => exact ⟨_, Yields.pure _ _⟩
      | some grammar =>
          refine (extract_settled workspace settings path grammar id).bind ?_
          intro extracted
          exact ⟨_, Yields.pure _ _⟩

theorem extractAll_settled
    (workspace : Workspace) (settings : ExtractionSettings) (id : Int) (paths : List Path) :
    (extractAll workspace settings id paths).Settled workspace.faults := by
  induction paths generalizing id with
  | nil => exact ⟨_, Yields.pure _ _⟩
  | cons path rest ih =>
      unfold extractAll
      refine (extractFile?_settled workspace settings path id).bind ?_
      intro found
      cases found with
      | none => exact ih id
      | some extracted =>
          refine (ih extracted.nextId).bind ?_
          intro others
          exact ⟨_, Yields.pure _ _⟩

theorem extensionsFor_settled
    (workspace : Workspace) (settings : ExtractionSettings) (directory : Path)
    (extensions : List String) :
    (extensionsFor workspace settings directory extensions).Settled workspace.faults := by
  unfold extensionsFor
  cases extensions.isEmpty with
  | false => exact ⟨_, Yields.pure _ _⟩
  | true =>
      rw [if_pos rfl]
      cases workspace.files.detectExtensions settings.extraExcludedDirs directory.text directory
          settings.defaultExtensions with
      | error fault => exact ⟨_, Yields.throw _ _⟩
      | ok detected => exact ⟨_, (Yields.tell _ _).bind (Yields.pure _ _)⟩

/-- From usable sessions a scan comes to one outcome, also when it is stopped half-way. -/
theorem scan_settled
    (workspace : Workspace) (settings : ExtractionSettings) (directory : Path)
    (extensions : List String) :
    (scan workspace settings directory extensions).Settled workspace.faults := by
  unfold scan
  refine (extensionsFor_settled workspace settings directory extensions).bind ?_
  intro wanted
  cases workspace.files.findFiles settings.extraExcludedDirs directory wanted with
  | error fault => exact ⟨_, (Yields.tell _ _).bind (Yields.pure _ _)⟩
  | ok files =>
      refine Settled.bind ⟨_, Yields.tell _ _⟩ ?_
      intro _
      refine (extractAll_settled workspace settings 1 files).bind ?_
      intro found
      exact ⟨_, (Yields.tell _ _).bind (Yields.pure _ _)⟩

end Extractor
end SourceOutline
