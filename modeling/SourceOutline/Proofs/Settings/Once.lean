import SourceOutline.Proofs.Settings.Load

/-!
# Settings are as good as checked once

Settings are checked twice when they are loaded: first as their layers are merged, and once
more written down as plain data.  Only what the first check finds is reported; an issue of
the second one would come out as it is.  But there is none, because what passes the first
check is in standard form.  Settings come out of the second check as they went in, and
loading ends as if it were left out.

Conversely, all settings in standard form pass the first check for some layers.
-/

namespace SourceOutline
namespace Settings

open Check

variable {library : Library}

/-- The settings that can be loaded are the standard ones. -/
theorem exists_checkMerged_iff (hplain : library.KeepsPlain) {homes : Homes}
    {settings : Settings} :
    (∃ entries, checkMerged library homes entries = .ok settings) ↔ settings.IsStandard := by
  constructor
  · rintro ⟨entries, haccepted⟩
    exact (settles_check hplain homes).reached (check_of_checkMerged haccepted)
  · intro hform
    let entries : Entries :=
      [(.text "logging", settings.logging.toValue),
        (.text "extraction", settings.extraction.toValue)]
    have hchecked : Settings.check library homes (.map entries) = .ok settings :=
      (settles_check hplain homes).kept hform
    have hextra : checkExtra entries = .ok () := rfl
    refine ⟨entries, ?_⟩
    rw [checkMerged, hchecked, hextra]
    rfl

theorem check_toValue_of_checkMerged (hplain : library.KeepsPlain)
    {homes : Homes} {entries : Entries} {settings : Settings}
    (haccepted : checkMerged library homes entries = .ok settings) (later : Homes) :
    Settings.check library later settings.toValue = .ok settings :=
  (settles_check hplain later).kept ((exists_checkMerged_iff hplain).mp ⟨entries, haccepted⟩)

/-- Loads the settings of a project with the first check only. -/
def loadOnce (homes : Homes) (files : FileStore) (globalPath root : Path)
    (environment : Environment) (overrides : Overrides library) : Except LoadFault Settings := do
  let globalFile ← readFile library files globalPath
  let project ← readFile library files (root.append [projectFile])
  match library.readVariables environment with
  | .error name => .error (.brokenVariable name)
  | .ok fromEnvironment =>
      ofMerged library homes (merged globalFile project fromEnvironment overrides)

section Load

variable {homes : Homes} {files : FileStore} {globalPath root : Path}
  {environment : Environment} {overrides : Overrides library}

/-- Loading checks twice and might as well check once. -/
theorem load_eq_loadOnce (hplain : library.KeepsPlain) :
    load homes files globalPath root environment overrides =
      loadOnce homes files globalPath root environment overrides := by
  unfold load loadOnce
  cases readFile library files globalPath with
  | error fault => rfl
  | ok globalFile =>
      cases readFile library files (root.append [projectFile]) with
      | error fault => rfl
      | ok project =>
          change ofLayers homes globalFile project environment overrides = _
          cases hvariables : library.readVariables environment with
          | error name =>
              unfold ofLayers
              rw [hvariables]
              rfl
          | ok fromEnvironment => exact ofLayers_eq_ofMerged hplain hvariables

theorem load_ne_refused (hplain : library.KeepsPlain) (found : List Issue) :
    load homes files globalPath root environment overrides ≠ .error (.refused found) := by
  intro hfails
  -- Of the reasons for which loading stops without a report, none is a refusal.
  have htrouble := (load_unreported_iff hplain).mp ⟨hfails, not_false⟩
  cases htrouble with
  | globalFile hfile => cases hfile
  | projectFile _ hfile => cases hfile
  | layers _ _ hlayers =>
      cases hlayers with
      | merged _ hmerged => cases hmerged

end Load

/-- Settings that pass the first check pass the second one unchanged, whatever homes are known
then, and those are all settings in standard form.  Loading therefore ends as the first check
does, and no issue of the second one comes out of it. -/
theorem load_rechecks_unchanged (hplain : library.KeepsPlain) (homes : Homes) :
    (∀ (entries : Entries) (settings : Settings),
        checkMerged library homes entries = .ok settings →
        ∀ later, Settings.check library later settings.toValue = .ok settings) ∧
      (∀ settings : Settings,
        (∃ entries, checkMerged library homes entries = .ok settings) ↔ settings.IsStandard) ∧
      ∀ (files : FileStore) (globalPath root : Path) (environment : Environment)
        (overrides : Overrides library),
        load homes files globalPath root environment overrides =
            loadOnce homes files globalPath root environment overrides ∧
          ∀ found,
            load homes files globalPath root environment overrides ≠ .error (.refused found) :=
  ⟨fun _ _ haccepted => check_toValue_of_checkMerged hplain haccepted,
    fun _ => exists_checkMerged_iff hplain,
    fun _ _ _ _ _ => ⟨load_eq_loadOnce hplain, load_ne_refused hplain⟩⟩

/-- Layers that log to a file at home, with capitals in an extension and a large number. -/
def homeLayers : Entries :=
  [(.text "logging", .record
      [("outputs", .list
        [.record [("destination", .text "~//logs/./run.log"), ("level", .text "DEBUG")],
          .record [("format", .text "json")]])]),
    (.text "extraction", .record
      [("default_extensions", .texts [".TS", ".\u0130"]), ("max_file_size_mb", .text " +0012"),
        ("comment_max_distance", .int 1000000000000000000000000000000)])]

def homeSettings : Settings :=
  { logging :=
      { outputs :=
          [{ destination := "/home/ann/logs/run.log", level := some .debug },
            { format := .json }] }
    extraction :=
      { defaultExtensions := [".ts", ".i\u0307"], maxFileSizeMb := 12,
        commentMaxDistance := 1000000000000000000000000000000 } }

theorem load_rechecks_unchanged_home :
    checkMerged .usual [("", "/home/ann/")] homeLayers = .ok homeSettings ∧
      Settings.check .usual [] homeSettings.toValue = .ok homeSettings := by
  have haccepted : checkMerged .usual [("", "/home/ann/")] homeLayers = .ok homeSettings := by
    rfl
  exact ⟨haccepted,
    (load_rechecks_unchanged Library.usual_keepsPlain _).1 _ _ haccepted []⟩

end Settings
end SourceOutline
