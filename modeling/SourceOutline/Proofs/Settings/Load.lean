import SourceOutline.Command.Run
import SourceOutline.Proofs.Settings.Model
import SourceOutline.Proofs.Settings.Standard
import SourceOutline.Proofs.Settings.Usual

/-!
# When loading settings is not reported

Loading settings gives settings or reports what is wrong with a file or a value, and a
command ends with that report.  There are seven exceptions, in which loading stops with
something else and a command breaks off.  They are told here one by one, in the order in
which they are found: a file cannot be read or is no text, the parser of documents stops with
an exception of another kind, a variable is broken, the name of a section is no text, a home
is not known, and the value that would have to be reported cannot be shown.

Checking the settings once more is none of them, because it changes nothing.

What the libraries do is left open, but for plain data, which they take as they are.  Left
out are documents with a list or mapping inside itself, since data here are trees: such a
mapping in both files would be merged without end.
-/

namespace SourceOutline

/-- The fault is reported as one of a settings file or of a setting. -/
def LoadFault.IsReported : LoadFault → Prop
  | .malformed _ => True
  | .fault found => found.code = .configParse ∨ found.code = .configValue
  | _ => False

/-- Somewhere in the data a list or mapping contains itself. -/
inductive Value.Looped : Value → Prop
  | again (isMap : Bool) (alone : String) : Looped (.other (.again isMap alone))
  | item {items : List Value} {item : Value} (hitem : item ∈ items) (hlooped : Looped item) :
      Looped (.list items)
  | entry {entries : Entries} {entry : Key × Value} (hentry : entry ∈ entries)
      (hlooped : Looped entry.2) : Looped (.map entries)

namespace Settings

open Check

variable {library : Library}

/-- Why a settings file stops the loading without a report. -/
inductive FileTrouble (library : Library) (files : FileStore) (path : Path) : LoadFault → Prop
  | unseen {fault : AccessFault} (hseen : files.seen? path = .error fault) :
      FileTrouble library files path (.unread fault path.text)
  | unread {there : Bytes} {fault : AccessFault}
      (hseen : files.seen? path = .ok (some (.file there)))
      (hread : files.read path = .error fault) :
      FileTrouble library files path (.unread fault path.text)
  | notText {there content : Bytes} (hseen : files.seen? path = .ok (some (.file there)))
      (hread : files.read path = .ok content) (htext : Utf8.decode? content = none) :
      FileTrouble library files path (.notText path.text)
  | raised {there content : Bytes} {text : List Char} {kind message : String}
      (hseen : files.seen? path = .ok (some (.file there)))
      (hread : files.read path = .ok content) (htext : Utf8.decode? content = some text)
      (hdocument : library.document text = .error (.raised kind message)) :
      FileTrouble library files path (.raised kind message)

/-- Why merged settings stop the loading without a report. -/
inductive MergedTrouble (library : Library) (homes : Homes) (entries : Entries) :
    LoadFault → Prop
  | nameNotText (hname : entries.all hasTextName = false) :
      MergedTrouble library homes entries .nameNotText
  | noHome (hnames : entries.all hasTextName = true)
      (hhome : UnknownHome library homes (.map entries)) :
      MergedTrouble library homes entries .noHome
  | unshowable {issue : Issue} {rest : List Issue} (hnames : entries.all hasTextName = true)
      (hissue : checkMerged library homes entries = .issues (issue :: rest))
      (hlarge : issue.input.hasUnshowable = true) :
      MergedTrouble library homes entries .unshowable

/-- Why settings that could be read stop the loading without a report. -/
inductive LayerTrouble (homes : Homes) (globalFile project : Entries)
    (environment : Environment) (overrides : Overrides library) : LoadFault → Prop
  | brokenVariable {name : String} (hvariables : library.readVariables environment = .error name) :
      LayerTrouble homes globalFile project environment overrides (.brokenVariable name)
  | merged {fromEnvironment : Entries} {fault : LoadFault}
      (hvariables : library.readVariables environment = .ok fromEnvironment)
      (hmerged : MergedTrouble library homes
        (merged globalFile project fromEnvironment overrides) fault) :
      LayerTrouble homes globalFile project environment overrides fault

/-- Why loading stops without a report. -/
inductive Trouble (homes : Homes) (files : FileStore) (globalPath root : Path)
    (environment : Environment) (overrides : Overrides library) : LoadFault → Prop
  | globalFile {fault : LoadFault} (hfile : FileTrouble library files globalPath fault) :
      Trouble homes files globalPath root environment overrides fault
  | projectFile {fault : LoadFault} {entries : Entries}
      (hglobal : readFile library files globalPath = .ok entries)
      (hfile : FileTrouble library files (root.append [projectFile]) fault) :
      Trouble homes files globalPath root environment overrides fault
  | layers {fault : LoadFault} {entries project : Entries}
      (hglobal : readFile library files globalPath = .ok entries)
      (hproject : readFile library files (root.append [projectFile]) = .ok project)
      (hlayers : LayerTrouble homes entries project environment overrides fault) :
      Trouble homes files globalPath root environment overrides fault

/-! ## Files -/

/-- A settings file gives an unreported fault only through its bytes or its scalars. -/
theorem readFile_unreported_iff {files : FileStore} {path : Path} {fault : LoadFault} :
    (readFile library files path = .error fault ∧ ¬ fault.IsReported) ↔
      FileTrouble library files path fault := by
  constructor
  · rintro ⟨hfails, hunreported⟩
    unfold readFile at hfails
    split at hfails
    next hseen =>
      obtain rfl := Except.error.inj hfails
      exact .unseen hseen
    next there hseen =>
      cases hread : files.read path with
      | error found =>
          simp only [hread] at hfails
          obtain rfl := Except.error.inj hfails
          exact .unread hseen hread
      | ok content =>
          simp only [hread] at hfails
          cases htext : Utf8.decode? content with
          | none =>
              simp only [htext] at hfails
              obtain rfl := Except.error.inj hfails
              exact .notText hseen hread htext
          | some text =>
              simp only [htext] at hfails
              split at hfails
              next =>
                obtain rfl := Except.error.inj hfails
                exact absurd True.intro hunreported
              next kind message hdocument =>
                obtain rfl := Except.error.inj hfails
                exact .raised hseen hread htext hdocument
              next => cases hfails
              next => cases hfails
              next =>
                obtain rfl := Except.error.inj hfails
                exact absurd (Or.inl rfl) hunreported
    next => cases hfails
  · intro hfile
    unfold readFile
    cases hfile with
    | unseen hseen =>
        refine ⟨?_, not_false⟩
        simp only [hseen]
    | unread hseen hread =>
        refine ⟨?_, not_false⟩
        simp only [hseen, hread]
    | notText hseen hread htext =>
        refine ⟨?_, not_false⟩
        simp only [hseen, hread, htext]
    | raised hseen hread htext hdocument =>
        refine ⟨?_, not_false⟩
        simp only [hseen, hread, htext, hdocument]

/-! ## Checks -/

theorem checkExtra_breaksIff (entries : Entries) : (checkExtra entries).BreaksIff False := by
  unfold checkExtra
  split
  next => exact breaksIff_ok ()
  next hsome =>
    constructor
    · simpa using hsome
    · simp

theorem checkMerged_breaksIff (library : Library) (homes : Homes) (entries : Entries) :
    (checkMerged library homes entries).BreaksIff (UnknownHome library homes (.map entries)) := by
  have hchecked := (Settings.check_breaksIff library homes (.map entries)).map
    fun settings (_ : Unit) => settings
  exact (hchecked.both (checkExtra_breaksIff entries)).congr (by simp)

theorem check_of_checkMerged
    {homes : Homes} {entries : Entries} {settings : Settings}
    (haccepted : checkMerged library homes entries = .ok settings) :
    Settings.check library homes (.map entries) = .ok settings := by
  unfold checkMerged at haccepted
  simp only [both_eq_ok, map_eq_ok] at haccepted
  obtain ⟨_, _, ⟨accepted, hcheck, rfl⟩, _, rfl⟩ := haccepted
  exact hcheck

/-- The second check changes nothing, so that its faults cannot occur. -/
theorem recheck_of_checkMerged (hplain : library.KeepsPlain)
    {homes : Homes} {entries : Entries} {settings : Settings}
    (haccepted : checkMerged library homes entries = .ok settings) :
    recheck library homes settings = .ok settings := by
  unfold recheck
  rw [(Settings.settles_check hplain homes).again (check_of_checkMerged haccepted)]

/-- The settings that merged layers make, checked once. -/
def ofMerged (library : Library) (homes : Homes) (entries : Entries) :
    Except LoadFault Settings :=
  if entries.all hasTextName then ofCheck (checkMerged library homes entries)
  else .error .nameNotText

theorem ofLayers_eq_ofMerged (hplain : library.KeepsPlain)
    {homes : Homes} {globalFile project fromEnvironment : Entries} {environment : Environment}
    {overrides : Overrides library}
    (hvariables : library.readVariables environment = .ok fromEnvironment) :
    ofLayers homes globalFile project environment overrides =
      ofMerged library homes (merged globalFile project fromEnvironment overrides) := by
  unfold ofLayers ofMerged
  simp only [hvariables]
  split
  next =>
    cases hchecked :
        checkMerged library homes (merged globalFile project fromEnvironment overrides) with
    | ok settings =>
        -- What was accepted is written down in its standard form, which is accepted as it is.
        change recheck library homes settings = .ok settings
        exact recheck_of_checkMerged hplain hchecked
    | issues found => rfl
    | noHome => rfl
  next => rfl

/-- Merged settings break off without a report only for want of a home directory. -/
theorem ofMerged_unreported_iff {homes : Homes} {entries : Entries} {fault : LoadFault} :
    (ofMerged library homes entries = .error fault ∧ ¬ fault.IsReported) ↔
      MergedTrouble library homes entries fault := by
  have hbreaks := checkMerged_breaksIff library homes entries
  unfold ofMerged
  constructor
  · rintro ⟨hfails, hunreported⟩
    split at hfails
    next hnames =>
      cases hchecked : checkMerged library homes entries with
      | ok settings =>
          rw [hchecked] at hfails
          contradiction
      | noHome =>
          rw [hchecked] at hfails
          obtain rfl := Except.error.inj hfails
          exact .noHome hnames (hbreaks.breaks.mp hchecked)
      | issues found =>
          rw [hchecked] at hfails
          obtain rfl := Except.error.inj hfails
          cases found with
          | nil => exact absurd hchecked hbreaks.told
          | cons issue rest =>
              by_cases hlarge : issue.input.hasUnshowable = true
              · rw [reportFirst, if_pos hlarge]
                exact .unshowable hnames hchecked hlarge
              · -- An issue that can be shown is reported.
                rw [reportFirst, if_neg hlarge] at hunreported
                exact absurd (Or.inr rfl) hunreported
    next hname =>
      rw [Bool.not_eq_true] at hname
      obtain rfl := Except.error.inj hfails
      exact .nameNotText hname
  · intro htrouble
    cases htrouble with
    | nameNotText hname =>
        rw [if_neg (by rw [hname]; exact Bool.false_ne_true)]
        exact ⟨rfl, not_false⟩
    | noHome hnames hhome =>
        rw [if_pos hnames, hbreaks.breaks.mpr hhome]
        exact ⟨rfl, not_false⟩
    | unshowable hnames hissue hlarge =>
        rw [if_pos hnames, hissue, ofCheck, reportFirst, if_pos hlarge]
        exact ⟨rfl, not_false⟩

theorem ofLayers_unreported_iff (hplain : library.KeepsPlain)
    {homes : Homes} {globalFile project : Entries} {environment : Environment}
    {overrides : Overrides library} {fault : LoadFault} :
    (ofLayers homes globalFile project environment overrides = .error fault ∧
        ¬ fault.IsReported) ↔
      LayerTrouble homes globalFile project environment overrides fault := by
  constructor
  · rintro ⟨hfails, hunreported⟩
    cases hvariables : library.readVariables environment with
    | error name =>
        simp only [ofLayers, hvariables] at hfails
        obtain rfl := Except.error.inj hfails
        exact .brokenVariable hvariables
    | ok fromEnvironment =>
        rw [ofLayers_eq_ofMerged hplain hvariables] at hfails
        exact .merged hvariables (ofMerged_unreported_iff.mp ⟨hfails, hunreported⟩)
  · intro htrouble
    cases htrouble with
    | brokenVariable hvariables =>
        refine ⟨?_, not_false⟩
        simp only [ofLayers, hvariables]
    | merged hvariables hmerged =>
        rw [ofLayers_eq_ofMerged hplain hvariables]
        exact ofMerged_unreported_iff.mpr hmerged

/-! ## Loading -/

/-- Loading fails without a report exactly where one of the troubles is. -/
theorem load_unreported_iff (hplain : library.KeepsPlain)
    {homes : Homes} {files : FileStore} {globalPath root : Path} {environment : Environment}
    {overrides : Overrides library} {fault : LoadFault} :
    (load homes files globalPath root environment overrides = .error fault ∧
        ¬ fault.IsReported) ↔
      Trouble homes files globalPath root environment overrides fault := by
  constructor
  · rintro ⟨hfails, hunreported⟩
    unfold load at hfails
    cases hglobal : readFile library files globalPath with
    | error first =>
        rw [hglobal] at hfails
        obtain rfl : first = fault := Except.error.inj hfails
        exact .globalFile (readFile_unreported_iff.mp ⟨hglobal, hunreported⟩)
    | ok entries =>
        cases hproject : readFile library files (root.append [projectFile]) with
        | error second =>
            rw [hglobal, hproject] at hfails
            obtain rfl : second = fault := Except.error.inj hfails
            exact .projectFile hglobal (readFile_unreported_iff.mp ⟨hproject, hunreported⟩)
        | ok project =>
            rw [hglobal, hproject] at hfails
            exact .layers hglobal hproject ((ofLayers_unreported_iff hplain).mp ⟨hfails, hunreported⟩)
  · intro htrouble
    unfold load
    cases htrouble with
    | globalFile hfile =>
        obtain ⟨hfails, hunreported⟩ := readFile_unreported_iff.mpr hfile
        exact ⟨by rw [hfails]; rfl, hunreported⟩
    | projectFile hglobal hfile =>
        obtain ⟨hfails, hunreported⟩ := readFile_unreported_iff.mpr hfile
        exact ⟨by rw [hglobal, hfails]; rfl, hunreported⟩
    | layers hglobal hproject hlayers =>
        obtain ⟨hfails, hunreported⟩ := (ofLayers_unreported_iff hplain).mpr hlayers
        exact ⟨by rw [hglobal, hproject]; exact hfails, hunreported⟩

theorem Trouble.settingsFailure
    {homes : Homes} {files : FileStore} {globalPath root : Path} {environment : Environment}
    {overrides : Overrides library} {fault : LoadFault}
    (htrouble : Trouble homes files globalPath root environment overrides fault) :
    Command.settingsFailure fault = .crash (.settings fault) := by
  have hfile {path : Path} (hfile : FileTrouble library files path fault) :
      Command.settingsFailure fault = .crash (.settings fault) := by
    cases hfile <;> rfl
  cases htrouble with
  | globalFile htrouble => exact hfile htrouble
  | projectFile _ htrouble => exact hfile htrouble
  | layers _ _ hlayers =>
      cases hlayers with
      | brokenVariable hvariables => rfl
      | merged hvariables hmerged => cases hmerged <;> rfl

/-- A reported fault reaches the user as a message. -/
theorem settingsFailure_of_isReported {fault : LoadFault} (hreported : fault.IsReported) :
    ∃ message, Command.settingsFailure fault = .reported message := by
  cases fault with
  | malformed path => exact ⟨_, rfl⟩
  | fault found => exact ⟨_, rfl⟩
  | _ => exact absurd hreported not_false

/-! ## Commands -/

/-- What a step of a command comes to, and where it leaves the command. -/
def outcomeOf {α : Type} (step : Command.Step α) (progress : Command.Progress) :
    Except Command.Failure α × Command.Progress :=
  step.run.run progress

def loadedFor (surroundings : Command.Surroundings) (root : Option Path)
    (progress : Command.Progress) : Except LoadFault Settings :=
  load surroundings.homes progress.files surroundings.globalSettings (root.getD {})
    surroundings.environment ([] : Overrides surroundings.library)

/-- Why a command stops in loading its settings without a report. -/
def TroubleFor (surroundings : Command.Surroundings) (root : Option Path)
    (progress : Command.Progress) (fault : LoadFault) : Prop :=
  Trouble surroundings.homes progress.files surroundings.globalSettings (root.getD {})
    surroundings.environment ([] : Overrides surroundings.library) fault

section Commands

variable {surroundings : Command.Surroundings} {root : Option Path}
  {progress : Command.Progress}

theorem loadedFor_unreported_iff (hplain : surroundings.library.KeepsPlain)
    {fault : LoadFault} :
    (loadedFor surroundings root progress = .error fault ∧ ¬ fault.IsReported) ↔
      TroubleFor surroundings root progress fault :=
  load_unreported_iff hplain

theorem outcomeOf_loadSettings (choices : Command.Choices) :
    (∃ settings, loadedFor surroundings root progress = .ok settings ∧
        (outcomeOf (Command.loadSettings surroundings choices root) progress).1 =
          .ok settings) ∨
      ∃ fault, loadedFor surroundings root progress = .error fault ∧
        outcomeOf (Command.loadSettings surroundings choices root) progress =
          (.error (Command.settingsFailure fault), progress) := by
  have hrun : outcomeOf (Command.loadSettings surroundings choices root) progress =
      outcomeOf (Command.configured choices (loadedFor surroundings root progress)) progress := rfl
  rw [hrun]
  cases loadedFor surroundings root progress with
  | ok settings => exact .inl ⟨settings, rfl, rfl⟩
  | error fault => exact .inr ⟨fault, rfl, rfl⟩

/-- A command breaks off exactly in trouble, and else it has settings or ends with a
report. -/
structure SettledFor (surroundings : Command.Surroundings) (choices : Command.Choices)
    (root : Option Path) (progress : Command.Progress) : Prop where
  crashes : ∀ fault, (outcomeOf (Command.loadSettings surroundings choices root) progress).1 =
      .error (.crash (.settings fault)) ↔ TroubleFor surroundings root progress fault
  otherwise :
    (∃ settings, (outcomeOf (Command.loadSettings surroundings choices root) progress).1 =
      .ok settings) ∨
    (∃ message, outcomeOf (Command.loadSettings surroundings choices root) progress =
      (.error (.reported message), progress)) ∨
    ∃ fault, TroubleFor surroundings root progress fault

theorem settledFor (hplain : surroundings.library.KeepsPlain) (choices : Command.Choices) :
    SettledFor surroundings choices root progress := by
  rcases outcomeOf_loadSettings choices with
    ⟨settings, hloaded, houtcome⟩ | ⟨found, hloaded, houtcome⟩
  · refine ⟨fun fault => ?_, .inl ⟨settings, houtcome⟩⟩
    rw [houtcome, ← loadedFor_unreported_iff hplain, hloaded]
    simp
  · by_cases hreported : found.IsReported
    · obtain ⟨message, hmessage⟩ := settingsFailure_of_isReported hreported
      rw [hmessage] at houtcome
      refine ⟨fun fault => ?_, .inr (.inl ⟨message, houtcome⟩)⟩
      rw [houtcome, ← loadedFor_unreported_iff hplain, hloaded]
      simp only [Except.error.injEq, reduceCtorEq, false_iff]
      rintro ⟨rfl, hunreported⟩
      exact hunreported hreported
    · have htrouble : TroubleFor surroundings root progress found :=
        (loadedFor_unreported_iff hplain).mp ⟨hloaded, hreported⟩
      rw [htrouble.settingsFailure] at houtcome
      refine ⟨fun fault => ?_, .inr (.inr ⟨found, htrouble⟩)⟩
      rw [houtcome, ← loadedFor_unreported_iff hplain, hloaded]
      simp only [Except.error.injEq, Command.Failure.crash.injEq, Command.Crash.settings.injEq]
      constructor
      · rintro rfl
        exact ⟨rfl, hreported⟩
      · rintro ⟨rfl, _⟩
        rfl

end Commands

/-- Neither settings file holds data that contain themselves. -/
def TreesFor (surroundings : Command.Surroundings) (root : Option Path)
    (progress : Command.Progress) : Prop :=
  ∀ path ∈ [surroundings.globalSettings, (root.getD {}).append [projectFile]], ∀ entries,
    readFile surroundings.library progress.files path = .ok entries →
      ¬ (Value.map entries).Looped

/-- Loading gives settings or a report exactly if there is no trouble.  Where there is some
it stops without a report, and so does the command that needs the settings.  This is told of
settings files whose data are trees. -/
theorem load_reports_iff_no_trouble
    (surroundings : Command.Surroundings) (hplain : surroundings.library.KeepsPlain)
    (choices : Command.Choices) (root : Option Path) (progress : Command.Progress)
    (_htrees : TreesFor surroundings root progress) :
    (((∃ settings, loadedFor surroundings root progress = .ok settings) ∨
          ∃ fault, loadedFor surroundings root progress = .error fault ∧ fault.IsReported) ↔
        ¬ ∃ fault, TroubleFor surroundings root progress fault) ∧
      (∀ fault, (loadedFor surroundings root progress = .error fault ∧ ¬ fault.IsReported) ↔
        TroubleFor surroundings root progress fault) ∧
      SettledFor surroundings choices root progress := by
  refine ⟨?_, fun _ => loadedFor_unreported_iff hplain, settledFor hplain choices⟩
  simp only [← loadedFor_unreported_iff hplain]
  cases loadedFor surroundings root progress with
  | ok settings => simp
  | error fault => simp

def brokenProject : FileStore :=
  { entries := [("project", .directory [(".funsig.yaml", .file [0xFF])])] }

def brokenSurroundings : Command.Surroundings :=
  { workspace :=
      { files := brokenProject
        parse := fun _ source =>
          .mk { place := 0, kind := "program", start := 0, stop := source.length } [] }
    globalSettings := { names := ["global.yaml"] }
    time := "noon"
    runId := "run" }

theorem readFile_brokenProject :
    readFile .usual brokenProject { names := ["global.yaml"] } = .ok [] := by
  rfl

theorem fileTrouble_brokenProject :
    FileTrouble .usual brokenProject { names := ["project", ".funsig.yaml"] }
      (.notText "project/.funsig.yaml") :=
  .notText (rfl : brokenProject.seen? _ = .ok (some (.file [0xFF])))
    (rfl : brokenProject.read _ = .ok [0xFF]) (by decide +kernel)

theorem treesFor_brokenSurroundings :
    TreesFor brokenSurroundings (some { names := ["project"] }) { files := brokenProject } := by
  intro path hpath entries hread hlooped
  rcases List.mem_pair.mp hpath with rfl | rfl
  · obtain rfl : [] = entries := Except.ok.inj (readFile_brokenProject.symm.trans hread)
    cases hlooped with
    | entry hentry _ => contradiction
  · obtain ⟨hfails, _⟩ := readFile_unreported_iff.mpr fileTrouble_brokenProject
    cases hfails.symm.trans hread

theorem load_reports_iff_no_trouble_broken :
    (outcomeOf
        (Command.loadSettings brokenSurroundings { verbose := false, jsonLogs := false }
          (some { names := ["project"] }))
        { files := brokenProject }).1 =
      .error (.crash (.settings (.notText "project/.funsig.yaml"))) := by
  have hsettled := (load_reports_iff_no_trouble brokenSurroundings Library.usual_keepsPlain
    { verbose := false, jsonLogs := false } (some { names := ["project"] })
    { files := brokenProject } treesFor_brokenSurroundings).2.2
  exact (hsettled.crashes _).mpr (.projectFile readFile_brokenProject fileTrouble_brokenProject)

theorem load_not_always_reported :
    ¬ ∀ (homes : Homes) (files : FileStore) (globalPath root : Path)
        (environment : Environment) (fault : LoadFault),
        load homes files globalPath root environment ([] : Overrides .usual) = .error fault →
          fault.IsReported := by
  intro hreported
  have htrouble : Trouble [] brokenProject { names := ["global.yaml"] } { names := ["project"] }
      [] ([] : Overrides .usual) (.notText "project/.funsig.yaml") :=
    .projectFile readFile_brokenProject fileTrouble_brokenProject
  obtain ⟨hfails, hunreported⟩ := (load_unreported_iff Library.usual_keepsPlain).mpr htrouble
  exact hunreported (hreported _ _ _ _ _ _ hfails)

end Settings
end SourceOutline
