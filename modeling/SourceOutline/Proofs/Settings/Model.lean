import SourceOutline.Proofs.Settings.Check
import SourceOutline.Settings.Model

/-!
# When a check of the settings breaks off

Settings break off in one case only: the log goes to a file in the home of a user who is
not known.
-/

namespace SourceOutline

open Check

/-- A value that makes a model has a field. -/
def Library.Holds (library : Library) (model : String) (value : Value) (field : String)
    (inner : Value) : Prop :=
  ∃ entries, library.entries model value = .ok entries ∧
    Entries.get? entries (.text field) = some inner

/-- A path begins with the home of a user who is not known.  A name with a null character
is not looked up. -/
def LeadsToUnknownHome (homes : Homes) (text : String) : Prop :=
  ∃ user, (Path.ofString text).homeUser? = some user ∧ hasNull user = false ∧
    homes.lookup user = none

/-- A path leads to an unknown home directory if a user can be looked up and is not found. -/
theorem leadsToUnknownHome_iff {homes : Homes} {text : String} :
    LeadsToUnknownHome homes text ↔
      (Path.ofString text).homeUser?.any hasNull = false ∧
        (Path.ofString text).expandHome homes = none := by
  unfold LeadsToUnknownHome Path.expandHome
  cases (Path.ofString text).homeUser? with
  | none => simp
  | some user => simp

namespace LogOutput

theorem destinationOfText_breaksIff (homes : Homes) (value : Value) (text : String) :
    (destinationOfText homes value text).BreaksIff (LeadsToUnknownHome homes text) := by
  unfold destinationOfText
  split
  next hstream =>
    have huser : (Path.ofString text).homeUser? = none := by
      rcases hstream with rfl | rfl <;> decide
    exact (breaksIff_ok text).congr (by simp [LeadsToUnknownHome, huser])
  next =>
    rw [leadsToUnknownHome_iff]
    simp only
    split
    next hnull => exact (breaksIff_fail _ _).congr (by simp [hnull])
    next hnull =>
      rw [Bool.not_eq_true] at hnull
      cases hexpanded : (Path.ofString text).expandHome homes with
      | none => exact breaksIff_noHome.congr (by simp [hnull])
      | some path =>
          simp only
          split
          next => exact (breaksIff_ok _).congr (by simp)
          next => exact (breaksIff_fail _ _).congr (by simp)

/-- The field that says where the log goes leads to an unknown home. -/
def OutOfReach (library : Library) (homes : Homes) (output : Value) : Prop :=
  ∃ destination text, library.Holds "LogOutputConfig" output "destination" destination ∧
    library.string destination = .ok text ∧ LeadsToUnknownHome homes text

theorem checkDestination_breaksIff (library : Library) (homes : Homes) (value : Value) :
    (checkDestination library homes value).BreaksIff
      (∃ text, library.string value = .ok text ∧ LeadsToUnknownHome homes text) := by
  have hstring := breaksIff_ofExcept value (library.string value)
  exact (hstring.bind (destinationOfText_breaksIff homes value)).congr
    (by simp only [ofExcept_eq_ok, false_or])

theorem check_breaksIff (library : Library) (homes : Homes) (value : Value) :
    (check library homes value).BreaksIff (OutOfReach library homes value) := by
  have hfields (entries : Entries) :=
    let hformat := breaksIff_field (breaksIff_choice library formats) entries "format" .console
    let hdestination :=
      breaksIff_field (checkDestination_breaksIff library homes) entries "destination" "stderr"
    let hlevel :=
      breaksIff_field (breaksIff_optional (breaksIff_choice library levels)) entries "level" none
    ((hformat.map LogOutput.mk).both hdestination).both hlevel
  refine (breaksIff_model library hfields "LogOutputConfig" value).congr ?_
  simp only [OutOfReach, Library.Holds, and_false, exists_false, false_or, or_false,
    exists_and_left]
  tauto

end LogOutput

namespace LoggingSettings

theorem check_breaksIff (library : Library) (homes : Homes) (value : Value) :
    (check library homes value).BreaksIff
      (∃ outputs values, library.Holds "LoggingConfig" value "outputs" outputs ∧
        library.items outputs = .ok values ∧
        ∃ output ∈ values, LogOutput.OutOfReach library homes output) := by
  have hfields (entries : Entries) :=
    let hlevel := breaksIff_field (breaksIff_choice library LogOutput.levels) entries "level" .info
    let houtputs :=
      breaksIff_field (breaksIff_items library (LogOutput.check_breaksIff library homes)) entries
        "outputs" [{}]
    (hlevel.map LoggingSettings.mk).both houtputs
  refine (breaksIff_model library hfields "LoggingConfig" value).congr ?_
  simp only [Library.Holds, and_false, exists_false, false_or, exists_and_left]
  tauto

end LoggingSettings

namespace ExtractionSettings

variable (library : Library)

theorem checkNatural_breaksIff (value : Value) :
    (checkNatural library value).BreaksIff False := by
  refine (breaksIff_ofExcept value (library.integer value)).bind_never fun n => ?_
  split
  next => exact breaksIff_fail _ _
  next => exact breaksIff_ok n

theorem texts_breaksIff (value : Value) :
    (Check.items library (Check.string library) value).BreaksIff False :=
  (breaksIff_items library (fun item => breaksIff_ofExcept item (library.string item)) value).congr
    (by simp)

theorem checkExtensions_breaksIff (value : Value) :
    (checkExtensions library value).BreaksIff False := by
  refine (texts_breaksIff library value).bind_never fun extensions => ?_
  split
  next => exact breaksIff_fail _ _
  next => exact breaksIff_ok _

theorem check_breaksIff (value : Value) : (check library value).BreaksIff False := by
  let defaults : ExtractionSettings := {}
  have hfields (entries : Entries) :=
    let hdistance :=
      breaksIff_field (checkNatural_breaksIff library) entries "comment_max_distance"
        defaults.commentMaxDistance
    let hextensions :=
      breaksIff_field (checkExtensions_breaksIff library) entries "default_extensions"
        defaults.defaultExtensions
    let hexcluded :=
      breaksIff_field (texts_breaksIff library) entries "extra_excluded_dirs"
        defaults.extraExcludedDirs
    let hlargest :=
      breaksIff_field (checkNatural_breaksIff library) entries "max_file_size_mb"
        defaults.maxFileSizeMb
    let hlegacy :=
      breaksIff_field (fun flag => breaksIff_ofExcept flag (library.boolean flag)) entries
        "legacy_dependencies" defaults.legacyDependencies
    ((((hdistance.map ExtractionSettings.mk).both hextensions).both hexcluded).both
      hlargest).both hlegacy
  exact (breaksIff_model library hfields "ExtractionConfig" value).congr (by simp)

end ExtractionSettings

/-- An output of the log leads to the home of a user who is not known. -/
def UnknownHome (library : Library) (homes : Homes) (value : Value) : Prop :=
  ∃ logging outputs values, library.Holds "FunsigConfig" value "logging" logging ∧
    library.Holds "LoggingConfig" logging "outputs" outputs ∧
    library.items outputs = .ok values ∧
    ∃ output ∈ values, LogOutput.OutOfReach library homes output

/-- A check of settings breaks off exactly where some output needs a home directory that is not
known. -/
theorem Settings.check_breaksIff (library : Library) (homes : Homes) (value : Value) :
    (Settings.check library homes value).BreaksIff (UnknownHome library homes value) := by
  have hfields (entries : Entries) :=
    let hlogging :=
      breaksIff_field (LoggingSettings.check_breaksIff library homes) entries "logging" {}
    let hextraction :=
      breaksIff_field (ExtractionSettings.check_breaksIff library) entries "extraction" {}
    (hlogging.map Settings.mk).both hextraction
  refine (breaksIff_model library hfields "FunsigConfig" value).congr ?_
  simp only [UnknownHome, Library.Holds, and_false, exists_false, or_false, exists_and_left]
  tauto

end SourceOutline
