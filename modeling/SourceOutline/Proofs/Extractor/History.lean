import SourceOutline.Proofs.Extractor.Flat

/-!
# An extractor after any calls

What an extractor keeps from its calls is a cache and the language of its parser.  The
cache changes by loads alone, so whatever loads preserve is preserved by every call, no
matter how the call ends and what files, libraries and packs it finds.  In particular a
cache stays sound: it never holds a grammar that is not known, or one under the name of
another.  The language may be any that a call has left behind; a call that parses sets it
first.

When no library fails, every known grammar is usable.  Then the cache that an extractor
has gathered is as good as an empty one, and a call comes to the same end as the first
call of a new extractor.
-/

namespace SourceOutline

namespace Extraction

variable {α β : Type} {holds : GrammarCache → Prop}

/-- A property of caches that no load takes away. -/
def KeptByLoads (holds : GrammarCache → Prop) : Prop :=
  ∀ cache faults grammar, holds cache → holds (GrammarCache.load cache faults grammar).2.1

/-- A computation that begins with a cache of some kind leaves one of this kind. -/
def Keeps (holds : GrammarCache → Prop) (x : Extraction α) : Prop :=
  ∀ session, holds session.cache → holds (x.runFrom session).2.cache

namespace Keeps

theorem pure (value : α) : Keeps holds (Pure.pure value) :=
  fun _ hsession => hsession

theorem throw (stop : Stop) : Keeps holds (throw stop : Extraction α) :=
  fun _ hsession => hsession

theorem tell (events : List Event) : Keeps holds (tell events) :=
  fun _ hsession => hsession

theorem setLanguage (loaded : LoadedGrammar) : Keeps holds (setLanguage loaded) :=
  fun _ hsession => hsession

theorem ofExcept (outcome : Except Stop α) : Keeps holds (ofExcept outcome) := by
  intro session hsession
  rw [runFrom_ofExcept]
  exact hsession

theorem attempt {x : Extraction α} (hx : x.Keeps holds) : Keeps holds (attempt x) :=
  fun session hsession => hx session hsession

theorem loadGrammar (hloads : KeptByLoads holds) (workspace : Workspace) (grammar : String) :
    Keeps holds (loadGrammar workspace grammar) := by
  intro session hsession
  rw [runFrom_loadGrammar]
  exact hloads session.cache workspace.faults grammar hsession

theorem parse (workspace : Workspace) (source : Bytes) : Keeps holds (parse workspace source) := by
  intro session hsession
  unfold Extraction.parse
  rw [runFrom_get_bind]
  cases session.language with
  | none => exact hsession
  | some loaded => exact hsession

theorem bind
    {x : Extraction α} {f : α → Extraction β} (hx : x.Keeps holds)
    (hf : ∀ value, (f value).Keeps holds) : (x >>= f).Keeps holds := by
  intro session hsession
  have hfirst := hx session hsession
  rw [runFrom_bind]
  cases hrun : x.runFrom session with
  | mk outcome next =>
      rw [hrun] at hfirst
      cases outcome with
      | ok value => exact hf value next hfirst
      | error stop => exact hfirst

end Keeps
end Extraction

namespace Extractor

open Extraction

/-! ## What calls keep -/

section Keeps

variable {holds : GrammarCache → Prop} (hloads : KeptByLoads holds)
include hloads

theorem prepare_keeps
    (workspace : Workspace) (settings : ExtractionSettings) (path : Path) (grammar : String) :
    (prepare workspace settings path grammar).Keeps holds := by
  unfold prepare
  refine (Keeps.ofExcept _).bind fun source => ?_
  refine (Keeps.loadGrammar hloads workspace grammar).bind fun loaded => ?_
  exact (Keeps.setLanguage loaded).bind fun _ => Keeps.pure _

theorem extract_keeps
    (workspace : Workspace) (settings : ExtractionSettings) (path : Path)
    (grammar : String) (id : Int) :
    (extract workspace settings path grammar id).Keeps holds := by
  unfold extract
  refine (Keeps.attempt (prepare_keeps hloads workspace settings path grammar)).bind ?_
  intro prepared
  cases prepared with
  | error stop =>
      cases stop with
      | fault fault => exact (Keeps.tell _).bind fun _ => Keeps.pure _
      | path fault => exact Keeps.throw _
      | raised kind message => exact Keeps.throw _
      | noLanguage => exact Keeps.throw _
  | ok source =>
      refine (Keeps.parse workspace source).bind fun root => ?_
      unfold assembled
      cases workspace.packs.find? (·.name == grammar) with
      | none => exact Keeps.throw _
      | some pack => exact (Keeps.tell _).bind fun _ => Keeps.pure _

theorem extractFile?_keeps
    (workspace : Workspace) (settings : ExtractionSettings) (path : Path) (id : Int) :
    (extractFile? workspace settings path id).Keeps holds := by
  unfold extractFile?
  cases Grammar.resolve path.text with
  | mk resolved events =>
      refine (Keeps.tell events).bind ?_
      intro _
      cases resolved with
      | none => exact Keeps.pure _
      | some grammar =>
          exact (extract_keeps hloads workspace settings path grammar id).bind fun _ =>
            Keeps.pure _

theorem extractAll_keeps
    (workspace : Workspace) (settings : ExtractionSettings) (id : Int) (paths : List Path) :
    (extractAll workspace settings id paths).Keeps holds := by
  induction paths generalizing id with
  | nil => exact Keeps.pure _
  | cons path rest ih =>
      unfold extractAll
      refine (extractFile?_keeps hloads workspace settings path id).bind ?_
      intro found
      cases found with
      | none => exact ih id
      | some extracted => exact (ih extracted.nextId).bind fun _ => Keeps.pure _

theorem scan_keeps
    (workspace : Workspace) (settings : ExtractionSettings) (directory : Path)
    (extensions : List String) :
    (scan workspace settings directory extensions).Keeps holds := by
  have hextensions : (extensionsFor workspace settings directory extensions).Keeps holds := by
    unfold extensionsFor
    cases extensions.isEmpty with
    | false => exact Keeps.pure _
    | true =>
        rw [if_pos rfl]
        cases workspace.files.detectExtensions settings.extraExcludedDirs directory.text
            directory settings.defaultExtensions with
        | error fault => exact Keeps.throw _
        | ok detected => exact (Keeps.tell _).bind fun _ => Keeps.pure _
  unfold scan
  refine hextensions.bind ?_
  intro wanted
  cases workspace.files.findFiles settings.extraExcludedDirs directory wanted with
  | error fault => exact (Keeps.tell _).bind fun _ => Keeps.pure _
  | ok files =>
      refine (Keeps.tell _).bind fun _ => ?_
      refine (extractAll_keeps hloads workspace settings 1 files).bind ?_
      intro found
      exact (Keeps.tell _).bind fun _ => Keeps.pure _

end Keeps

/-! ## Calls -/

inductive ParseCall where
  | file (path : Path)
  | folder (directory : Path) (extensions : List String)
  | fileLegacy (path : Path)
  | folderLegacy (directory : Path) (extensions : List String)

inductive Call where
  | parse (call : ParseCall)
  | resolve (path : String)
  | load (grammar : String)

inductive Parsed where
  | record (record : FileRecord)
  | records (records : List FileRecord)
  | functions (listed : List FunctionRecord)

def ParseCall.run (workspace : Workspace) (settings : ExtractionSettings) :
    ParseCall → Extraction Parsed
  | .file path => do return .record (← parseFile workspace settings path)
  | .folder directory extensions => do
      return .records (← parseDirectory workspace settings directory extensions)
  | .fileLegacy path => do return .functions (← parseFileLegacy workspace settings path)
  | .folderLegacy directory extensions => do
      return .functions (← parseDirectoryLegacy workspace settings directory extensions)

/-- Carries out a call for what it leaves behind. -/
def Call.perform (workspace : Workspace) (settings : ExtractionSettings) :
    Call → Extraction Unit
  | .parse call => do
      let _ ← call.run workspace settings
  | .resolve path => Extraction.tell (Grammar.resolve path).2
  | .load grammar => do
      let _ ← Extraction.loadGrammar workspace grammar

/-- The session after some calls, each with what it has to work with.  A call that is
stopped leaves a session as well. -/
def sessionAfter (settings : ExtractionSettings) : List (Workspace × Call) → Session → Session
  | [], session => session
  | (workspace, call) :: rest, session =>
      sessionAfter settings rest ((call.perform workspace settings).runFrom session).2

/-- All identifiers count from one, without a gap.  A list of functions tells those of
records that count so. -/
def Parsed.CountsFromOne : Parsed → Prop
  | .record file => DenseIds 1 (1 + declarationTotal [file]) [file]
  | .records files => DenseIds 1 (1 + declarationTotal files) files
  | .functions listed =>
      ∃ files, DenseIds 1 (1 + declarationTotal files) files ∧ Lists files listed

theorem countsFromOne_functions
    {found : List Extracted} (hrun : NumberedRun 1 (found.map Extracted.record)) :
    (Parsed.functions (found.flatMap Extracted.flatten)).CountsFromOne := by
  refine ⟨_, hrun.denseIds, lists_flatten ?_⟩
  intro extracted hextracted
  obtain ⟨start, hstart⟩ := hrun.numberedFrom_of_mem (List.mem_map_of_mem hextracted)
  exact hstart.ids_nodup

/-- A call extracts one file or scans a directory, counting from one, and then tells what
it has found. -/
theorem ParseCall.run_cases
    (workspace : Workspace) (settings : ExtractionSettings) (call : ParseCall) :
    (∃ (path : Path) (tell : Option Extracted → Parsed), call.run workspace settings =
        (extractFile? workspace settings path 1 >>= fun found => pure (tell found)) ∧
        ∀ found, (∀ extracted ∈ found, extracted.NumberedFrom 1) →
          (tell found).CountsFromOne) ∨
      ∃ (directory : Path) (extensions : List String) (tell : List Extracted → Parsed),
        call.run workspace settings =
        (scan workspace settings directory extensions >>= fun found => pure (tell found)) ∧
        ∀ found, NumberedRun 1 (found.map Extracted.record) → (tell found).CountsFromOne := by
  cases call with
  | file path =>
      refine .inl ⟨path,
        fun found => .record (found.elim { fileName := path.text } Extracted.record), ?_, ?_⟩
      · rw [run, parseFile, bind_assoc]
        congr 1
        funext found
        cases found <;> rfl
      · intro found hfound
        have hrun : NumberedRun 1 [found.elim { fileName := path.text } Extracted.record] := by
          refine ⟨?_, trivial⟩
          cases found with
          | none => exact empty_numbered 1 path.text
          | some extracted => exact (hfound extracted rfl).1
        exact hrun.denseIds
  | folder directory extensions =>
      refine .inr ⟨directory, extensions, fun found => .records (found.map Extracted.record),
        ?_, fun found hrun => hrun.denseIds⟩
      rw [run, parseDirectory, bind_assoc]
      rfl
  | fileLegacy path =>
      refine .inl ⟨path,
        fun found => .functions (found.toList.flatMap Extracted.flatten), ?_, ?_⟩
      · rw [run, parseFileLegacy, bind_assoc]
        congr 1
        funext found
        cases found with
        | none => rfl
        | some extracted => simp
      · intro found hfound
        refine countsFromOne_functions ?_
        cases found with
        | none => trivial
        | some extracted => exact ⟨(hfound extracted rfl).1, trivial⟩
  | folderLegacy directory extensions =>
      refine .inr ⟨directory, extensions,
        fun found => .functions (found.flatMap Extracted.flatten), ?_,
        fun found hrun => countsFromOne_functions hrun⟩
      rw [run, parseDirectoryLegacy, bind_assoc]
      rfl

theorem ParseCall.run_keeps
    {holds : GrammarCache → Prop} (hloads : KeptByLoads holds) (workspace : Workspace)
    (settings : ExtractionSettings) (call : ParseCall) :
    (call.run workspace settings).Keeps holds := by
  rcases call.run_cases workspace settings with
    ⟨path, tell, hrun, _⟩ | ⟨directory, extensions, tell, hrun, _⟩
  · rw [hrun]
    exact (extractFile?_keeps hloads workspace settings path 1).bind fun _ => Keeps.pure _
  · rw [hrun]
    exact (scan_keeps hloads workspace settings directory extensions).bind fun _ =>
      Keeps.pure _

/-- What a call gives depends on the session only through what its cache can hold. -/
theorem ParseCall.run_settled
    (workspace : Workspace) (settings : ExtractionSettings) (call : ParseCall) :
    (call.run workspace settings).Settled workspace.faults := by
  rcases call.run_cases workspace settings with
    ⟨path, tell, hrun, _⟩ | ⟨directory, extensions, tell, hrun, _⟩
  · rw [hrun]
    exact (extractFile?_settled workspace settings path 1).bind fun _ => ⟨_, Yields.pure _ _⟩
  · rw [hrun]
    exact (scan_settled workspace settings directory extensions).bind fun _ =>
      ⟨_, Yields.pure _ _⟩

/-- Every call numbers from one on. -/
theorem ParseCall.run_ensures
    (workspace : Workspace) (settings : ExtractionSettings) (call : ParseCall) :
    (call.run workspace settings).Ensures Parsed.CountsFromOne := by
  rcases call.run_cases workspace settings with
    ⟨path, tell, hrun, hcounts⟩ | ⟨directory, extensions, tell, hrun, hcounts⟩
  · rw [hrun]
    exact (extractFile?_ensures workspace settings path 1).bind fun found hfound =>
      Ensures.pure (hcounts found hfound)
  · rw [hrun]
    exact (scan_ensures workspace settings directory extensions).bind fun found hfound =>
      Ensures.pure (hcounts found hfound)

theorem Call.perform_keeps
    {holds : GrammarCache → Prop} (hloads : KeptByLoads holds) (workspace : Workspace)
    (settings : ExtractionSettings) (call : Call) :
    (call.perform workspace settings).Keeps holds := by
  cases call with
  | parse call => exact (call.run_keeps hloads workspace settings).bind fun _ => Keeps.pure _
  | resolve path => exact Keeps.tell _
  | load grammar =>
      exact (Keeps.loadGrammar hloads workspace grammar).bind fun _ => Keeps.pure _

/-- What loads keep of a cache, a whole history of calls keeps. -/
theorem sessionAfter_keeps
    {holds : GrammarCache → Prop} (hloads : KeptByLoads holds) (settings : ExtractionSettings)
    (history : List (Workspace × Call)) {session : Session} (hsession : holds session.cache) :
    holds (sessionAfter settings history session).cache := by
  induction history generalizing session with
  | nil => exact hsession
  | cons step rest ih =>
      obtain ⟨workspace, call⟩ := step
      exact ih (call.perform_keeps hloads workspace settings session hsession)

/-! ## Sound caches -/

end Extractor

namespace GrammarCache

theorem sound_keptByLoads : Extraction.KeptByLoads Sound :=
  fun _ faults grammar hcache => (hcache.load faults grammar).2

/-- A sound cache is usable where all libraries can be loaded. -/
theorem Sound.usable
    {faults : LibraryFaults} {cache : GrammarCache} (hcache : cache.Sound)
    (hlibraries : ∀ pack ∈ Pack.all, faults.lookup pack.library = none) :
    cache.Usable faults := by
  refine ⟨hcache, fun grammar hloaded => ?_⟩
  obtain ⟨loaded, hlookup⟩ := Option.isSome_iff_exists.mp hloaded
  obtain ⟨pack, hpack⟩ := Option.isSome_iff_exists.mp (hcache grammar loaded hlookup).2
  have hfaults : faults.lookup pack.library = none :=
    hlibraries pack (List.mem_of_find?_eq_some hpack)
  have husable : Grammar.usable? faults grammar = some pack := by
    unfold Grammar.usable?
    rw [hpack, Option.filter_some, hfaults, Option.isNone_none, if_pos rfl]
  rw [husable, Option.isSome_some]

end GrammarCache

namespace Extractor

open Extraction

/-- After any calls, with whatever files, libraries and packs, an extractor parses as a new
one does: a further call ends in the same way, with the same records or the same stop, as
long as no library fails during it.  Its identifiers count from one. -/
theorem parse_after_calls
    (settings : ExtractionSettings) (history : List (Workspace × Call)) (workspace : Workspace)
    (hlibraries : ∀ pack ∈ Pack.all, workspace.faults.lookup pack.library = none)
    (call : ParseCall) :
    ((call.run workspace settings).runFrom (sessionAfter settings history {})).1 =
        ((call.run workspace settings).runFrom {}).1 ∧
      ∀ parsed,
        ((call.run workspace settings).runFrom (sessionAfter settings history {})).1 =
          .ok parsed → parsed.CountsFromOne := by
  have hsound : (sessionAfter settings history {}).cache.Sound :=
    sessionAfter_keeps GrammarCache.sound_keptByLoads settings history GrammarCache.sound_empty
  constructor
  · exact (call.run_settled workspace settings).outcome_eq (hsound.usable hlibraries)
      (GrammarCache.usable_empty _)
  · intro parsed hparsed
    cases hrun : (call.run workspace settings).runFrom (sessionAfter settings history {}) with
    | mk outcome final =>
        rw [hrun] at hparsed
        obtain rfl : outcome = .ok parsed := hparsed
        exact call.run_ensures workspace settings _ parsed final hrun

/-- Calls that find a library failing, no packs, a null character, a library that raises an
error, no directory and a grammar that is not known. -/
def sampleHistory : List (Workspace × Call) :=
  [(sampleWorkspace, .parse (.folder sampleDirectory sampleExtensions)),
    ({ sampleWorkspace with packs := [] }, .parse (.file { names := ["lib", "a.py"] })),
    (sampleWorkspace, .parse (.fileLegacy { names := ["lib", "\x00.py"] })),
    ({ sampleWorkspace with faults := [("tree_sitter_ruby", .raises "RuntimeError" "broken")] },
      .parse (.folder sampleDirectory [])),
    (sampleWorkspace, .parse (.folderLegacy { names := ["nowhere"] } [])),
    (sampleWorkspace, .load "cobol"), (sampleWorkspace, .resolve "d.json")]

/-- The sample once all grammars can be loaded. -/
def mendedWorkspace : Workspace := { sampleWorkspace with faults := [] }

def mendedPath : Path := { names := ["lib", "b.py"] }

theorem parse_after_calls_sample :
    ∃ record : FileRecord,
      ((ParseCall.run mendedWorkspace {} (.file mendedPath)).runFrom
          (sessionAfter {} sampleHistory {})).1 = .ok (.record record) ∧
        record.ids = [1, 2] := by
  have hsame :=
    (parse_after_calls {} sampleHistory mendedWorkspace (fun _ _ => rfl) (.file mendedPath)).1
  have hpath : mendedWorkspace.files.pathFault? mendedPath.text = none := by decide +kernel
  have hparsed : isParsed mendedPath = true := by decide +kernel
  have hregular : mendedWorkspace.Regular := by
    refine ⟨rfl, fun library kind message hraises => ?_⟩
    simp [mendedWorkspace] at hraises
  have hyields :
      (parseFile mendedWorkspace {} mendedPath).Yields mendedWorkspace.faults
        (.ok (extractedAs mendedPath 1 (unitAt? mendedWorkspace {} mendedPath)).record) :=
    parseFile_yields {} hregular hpath hparsed
  have hrun :
      (ParseCall.run mendedWorkspace {} (.file mendedPath)).Yields mendedWorkspace.faults
        (.ok (.record (extractedAs mendedPath 1 (unitAt? mendedWorkspace {} mendedPath)).record)) :=
    hyields.bind (Yields.pure _ _)
  have hfresh := (hrun {} (GrammarCache.usable_empty _)).1
  exact ⟨_, hsame.trans hfresh, by decide +kernel⟩

end Extractor
end SourceOutline
