import SourceOutline.Proofs.Files.Path
import SourceOutline.Proofs.Settings.Check
import SourceOutline.Proofs.Text.Lower
import SourceOutline.Settings.Model

/-!
# Settings in standard form

The rules of the settings bring values into a standard form.  A log goes to a standard
stream or to an absolute path as it is shown, an extension has its dot and no capital
letter, and a number is not negative.  Every check gives settings in this form, and settings
in this form are given back as they are by every check of the plain data that they are
written down as, for any libraries that take plain data as they are.  For a path that has its home filled in is read from its text as the same
path and has no tilde in front, and letters that are small stay as they are.

The form does not depend on the homes that are known.  So it does not matter either which
ones are known when settings are checked once more.
-/

namespace SourceOutline

open Check

/-! ## Paths of log files -/

namespace Path

theorem homeUser?_of_isAbsolute {path : Path} (habsolute : path.isAbsolute = true) :
    path.homeUser? = none := by
  unfold homeUser?
  rw [if_pos habsolute]

theorem expandHome_of_isAbsolute
    (homes : Homes) {path : Path} (habsolute : path.isAbsolute = true) :
    path.expandHome homes = some path := by
  unfold expandHome
  rw [homeUser?_of_isAbsolute habsolute]

theorem Proper.expandHome
    {homes : Homes} {path expanded : Path} (hpath : path.Proper)
    (hexpanded : path.expandHome homes = some expanded) : expanded.Proper := by
  unfold Path.expandHome at hexpanded
  split at hexpanded
  next =>
    obtain rfl := Option.some.inj hexpanded
    exact hpath
  next user _ =>
    obtain ⟨home, _, rfl⟩ := Option.map_eq_some_iff.mp hexpanded
    exact (proper_ofString home).append fun name hname =>
      hpath.names name (List.mem_of_mem_tail hname)

/-- An absolute path is not taken for a standard stream. -/
theorem text_ne_of_isAbsolute
    {path : Path} (hpath : path.Proper) (habsolute : path.isAbsolute = true) :
    path.text ≠ "stderr" ∧ path.text ≠ "stdout" := by
  have hread := ofString_text hpath
  constructor
  all_goals
    intro htext
    rw [htext] at hread
    rw [← hread] at habsolute
    revert habsolute
    decide

end Path

/-! ## Outputs of the log -/

namespace LogOutput

/-- A standard stream, or an absolute path as it is shown. -/
def IsDestination (destination : String) : Prop :=
  destination = "stderr" ∨ destination = "stdout" ∨
    ∃ path : Path, path.Proper ∧ path.isAbsolute = true ∧ path.text = destination

/-- An accepted destination is a stream or an absolute path. -/
theorem isDestination_of_destinationOfText
    {homes : Homes} {value : Value} {text destination : String}
    (haccepted : destinationOfText homes value text = .ok destination) :
    IsDestination destination := by
  unfold destinationOfText at haccepted
  split at haccepted
  next hstream =>
    obtain rfl := Check.ok.inj haccepted
    exact hstream.imp_right .inl
  next =>
    simp only at haccepted
    split at haccepted
    next => contradiction
    next =>
      split at haccepted
      next => contradiction
      next path hexpanded =>
        split at haccepted
        next habsolute =>
          have hproper : path.Proper := (Path.proper_ofString text).expandHome hexpanded
          exact .inr (.inr ⟨path, hproper, habsolute, Check.ok.inj haccepted⟩)
        next => contradiction

/-- An absolute path needs no home directory, so that it is accepted whoever is known. -/
theorem destinationOfText_text
    (homes : Homes) (value : Value) {path : Path} (hproper : path.Proper)
    (habsolute : path.isAbsolute = true) :
    destinationOfText homes value path.text = .ok path.text := by
  have hstream := Path.text_ne_of_isAbsolute hproper habsolute
  unfold destinationOfText
  simp only [Path.ofString_text hproper, Path.homeUser?_of_isAbsolute habsolute,
    Path.expandHome_of_isAbsolute homes habsolute, hstream.1, hstream.2, habsolute,
    or_self, if_false, if_true, Option.any_none, Bool.false_eq_true]

variable {library : Library}

theorem settles_checkDestination (hplain : library.KeepsPlain) (homes : Homes) :
    Settles (checkDestination library homes) .text IsDestination where
  reached haccepted := by
    obtain ⟨text, _, haccepted⟩ := bind_eq_ok.mp haccepted
    exact isDestination_of_destinationOfText haccepted
  kept {destination} hform := by
    have htext : Check.string library (.text destination) = .ok destination :=
      (settles_string hplain).kept trivial
    refine bind_eq_ok.mpr ⟨destination, htext, ?_⟩
    rcases hform with hstream | hstream | ⟨path, hproper, habsolute, rfl⟩
    · exact if_pos (.inl hstream)
    · exact if_pos (.inr hstream)
    · exact destinationOfText_text homes _ hproper habsolute

theorem lookup_formats (format : LogFormat) : formats.lookup format.name = some format := by
  cases format <;> decide

theorem lookup_levels (level : Level) : levels.lookup level.name = some level := by
  cases level <;> decide

theorem settles_level (hplain : library.KeepsPlain) :
    Settles (Check.optional (choice library levels))
      (fun level : Option Level => .ofOption (level.map fun level => .text level.name))
      fun _ => True :=
  ((settles_choice hplain lookup_levels).optional (by simp)).congr (by simp)

theorem settles_check (hplain : library.KeepsPlain) (homes : Homes) :
    Settles (check library homes) toValue fun output => IsDestination output.destination where
  reached haccepted := by
    unfold check at haccepted
    simp only [model_eq_ok, both_eq_ok, map_eq_ok] at haccepted
    obtain ⟨_, _, _, _, ⟨_, destination, ⟨_, _, rfl⟩, hdestination, rfl⟩, _, rfl⟩ := haccepted
    exact (settles_checkDestination hplain homes).field_reached (.inl rfl) hdestination
  kept {output} hform := by
    let fields : Entries :=
      [(.text "format", .text output.format.name),
        (.text "destination", .text output.destination),
        (.text "level", .ofOption (output.level.map fun level => .text level.name))]
    have hformat :
        field fields "format" .console (choice library formats) = .ok output.format :=
      (settles_choice hplain lookup_formats).field_kept trivial rfl _
    have hdestination :
        field fields "destination" "stderr" (checkDestination library homes) =
          .ok output.destination :=
      (settles_checkDestination hplain homes).field_kept hform rfl _
    have hlevel :
        field fields "level" none (Check.optional (choice library levels)) = .ok output.level :=
      (settles_level hplain).field_kept trivial rfl _
    change model library "LogOutputConfig" _ (.map fields) = _
    rw [model_map hplain, hformat, hdestination, hlevel]
    rfl

end LogOutput

namespace LoggingSettings

/-- All outputs of the log have a destination in standard form. -/
def IsStandard (settings : LoggingSettings) : Prop :=
  ∀ output ∈ settings.outputs, LogOutput.IsDestination output.destination

theorem isStandard_default : IsStandard {} := by
  intro output houtput
  obtain rfl := List.mem_singleton.mp houtput
  exact .inl rfl

theorem settles_check {library : Library} (hplain : library.KeepsPlain) (homes : Homes) :
    Settles (check library homes) toValue IsStandard where
  reached haccepted := by
    unfold check at haccepted
    simp only [model_eq_ok, both_eq_ok, map_eq_ok] at haccepted
    obtain ⟨_, _, _, outputs, ⟨_, _, rfl⟩, houtputs, rfl⟩ := haccepted
    have hitems := (LogOutput.settles_check hplain homes).items hplain
    exact hitems.field_reached isStandard_default houtputs
  kept {settings} hform := by
    let fields : Entries :=
      [(.text "level", .text settings.level.name),
        (.text "outputs", .list (settings.outputs.map LogOutput.toValue))]
    have hlevel :
        field fields "level" .info (choice library LogOutput.levels) = .ok settings.level :=
      (settles_choice hplain LogOutput.lookup_levels).field_kept trivial rfl _
    have houtputs :
        field fields "outputs" [{}] (items library (LogOutput.check library homes)) =
          .ok settings.outputs :=
      ((LogOutput.settles_check hplain homes).items hplain).field_kept hform rfl _
    change model library "LoggingConfig" _ (.map fields) = _
    rw [model_map hplain, hlevel, houtputs]
    rfl

end LoggingSettings

/-! ## The extraction -/

theorem head?_lowerCase {text : String} (htext : text.toList.head? = some '.') :
    (lowerCase text).toList.head? = some '.' := by
  cases hchars : text.toList with
  | nil => simp [hchars] at htext
  | cons c rest =>
      rw [hchars, List.head?_cons, Option.some_inj] at htext
      subst htext
      have hdot : Text.lowerChar '.' = ['.'] := by decide
      unfold lowerCase Text.lower
      rw [String.toList_ofList, hchars, Text.lowerAfter, if_neg (by decide), hdot]
      rfl

namespace ExtractionSettings

/-- A text with a dot in front, and in lower case. -/
def IsExtension (extension : String) : Prop :=
  extension.toList.head? = some '.' ∧ lowerCase extension = extension

structure IsStandard (settings : ExtractionSettings) : Prop where
  distance : 0 ≤ settings.commentMaxDistance
  extensions : ∀ extension ∈ settings.defaultExtensions, IsExtension extension
  largest : 0 ≤ settings.maxFileSizeMb

theorem isStandard_default : IsStandard {} := by
  constructor
  · decide
  · unfold IsExtension
    decide +kernel
  · decide

variable {library : Library}

theorem settles_checkNatural (hplain : library.KeepsPlain) :
    Settles (checkNatural library) .int fun n => 0 ≤ n where
  reached haccepted := by
    obtain ⟨m, _, haccepted⟩ := bind_eq_ok.mp haccepted
    split at haccepted
    next => contradiction
    next hnatural =>
      obtain rfl := Check.ok.inj haccepted
      exact Int.not_lt.mp hnatural
  kept hform :=
    bind_eq_ok.mpr ⟨_, ofExcept_eq_ok.mpr (hplain.integer _), if_neg (Int.not_lt.mpr hform)⟩

/-- Extensions with dots in lower case stay as they are. -/
theorem settles_checkExtensions (hplain : library.KeepsPlain) :
    Settles (checkExtensions library) .texts fun extensions =>
      ∀ extension ∈ extensions, IsExtension extension where
  reached haccepted := by
    obtain ⟨extensions, _, haccepted⟩ := bind_eq_ok.mp haccepted
    split at haccepted
    next => contradiction
    next hnone =>
      obtain rfl := Check.ok.inj haccepted
      intro extension hextension
      obtain ⟨original, horiginal, rfl⟩ := List.mem_map.mp hextension
      have hdot := List.find?_eq_none.mp hnone original horiginal
      exact ⟨head?_lowerCase (by simpa using hdot), lowerCase_lowerCase original⟩
  kept {extensions} hform := by
    have hnone :
        extensions.find? (fun extension => extension.toList.head? != some '.') = none := by
      rw [List.find?_eq_none]
      intro extension hextension
      simp [(hform extension hextension).1]
    have hsame : extensions.map lowerCase = extensions := by
      have hsmall : extensions.map lowerCase = extensions.map id :=
        List.map_congr_left fun extension hextension => (hform extension hextension).2
      rw [hsmall, List.map_id]
    unfold checkExtensions
    rw [bind_eq_ok]
    exact ⟨extensions, (settles_texts hplain).kept trivial, by rw [hnone, hsame]⟩

theorem settles_check (hplain : library.KeepsPlain) :
    Settles (check library) toValue IsStandard where
  reached haccepted := by
    unfold check at haccepted
    simp only [model_eq_ok, both_eq_ok, map_eq_ok] at haccepted
    obtain ⟨_, _, _, _, ⟨_, _, ⟨_, _, ⟨_, _, ⟨_, hdistance, rfl⟩, hextensions, rfl⟩, _, rfl⟩,
      hlargest, rfl⟩, _, rfl⟩ := haccepted
    have hnatural := settles_checkNatural hplain
    exact
      { distance := hnatural.field_reached isStandard_default.distance hdistance
        extensions :=
          (settles_checkExtensions hplain).field_reached isStandard_default.extensions
            hextensions
        largest := hnatural.field_reached isStandard_default.largest hlargest }
  kept {settings} hform := by
    let fields : Entries :=
      [(.text "comment_max_distance", .int settings.commentMaxDistance),
        (.text "default_extensions", .texts settings.defaultExtensions),
        (.text "extra_excluded_dirs", .texts settings.extraExcludedDirs),
        (.text "max_file_size_mb", .int settings.maxFileSizeMb),
        (.text "legacy_dependencies", .bool settings.legacyDependencies)]
    let defaults : ExtractionSettings := {}
    have hdistance :
        field fields "comment_max_distance" defaults.commentMaxDistance (checkNatural library) =
          .ok settings.commentMaxDistance :=
      (settles_checkNatural hplain).field_kept hform.distance rfl _
    have hextensions :
        field fields "default_extensions" defaults.defaultExtensions (checkExtensions library) =
          .ok settings.defaultExtensions :=
      (settles_checkExtensions hplain).field_kept hform.extensions rfl _
    have hexcluded :
        field fields "extra_excluded_dirs" defaults.extraExcludedDirs
          (items library (string library)) = .ok settings.extraExcludedDirs :=
      (settles_texts hplain).field_kept trivial rfl _
    have hlargest :
        field fields "max_file_size_mb" defaults.maxFileSizeMb (checkNatural library) =
          .ok settings.maxFileSizeMb :=
      (settles_checkNatural hplain).field_kept hform.largest rfl _
    have hlegacy :
        field fields "legacy_dependencies" defaults.legacyDependencies (boolean library) =
          .ok settings.legacyDependencies :=
      (settles_boolean hplain).field_kept trivial rfl _
    change model library "ExtractionConfig" _ (.map fields) = _
    simp only [model_map hplain]
    rw [hdistance, hextensions, hexcluded, hlargest, hlegacy]
    rfl

end ExtractionSettings

/-! ## Both sections -/

namespace Settings

structure IsStandard (settings : Settings) : Prop where
  logging : settings.logging.IsStandard
  extraction : settings.extraction.IsStandard

theorem settles_check {library : Library} (hplain : library.KeepsPlain) (homes : Homes) :
    Settles (Settings.check library homes) toValue IsStandard where
  reached haccepted := by
    unfold Settings.check at haccepted
    simp only [model_eq_ok, both_eq_ok, map_eq_ok] at haccepted
    obtain ⟨_, _, _, _, ⟨_, hlogging, rfl⟩, hextraction, rfl⟩ := haccepted
    exact
      { logging :=
          (LoggingSettings.settles_check hplain homes).field_reached
            LoggingSettings.isStandard_default hlogging
        extraction :=
          (ExtractionSettings.settles_check hplain).field_reached
            ExtractionSettings.isStandard_default hextraction }
  kept {settings} hform := by
    let fields : Entries :=
      [(.text "logging", settings.logging.toValue),
        (.text "extraction", settings.extraction.toValue)]
    have hlogging :
        field fields "logging" {} (LoggingSettings.check library homes) = .ok settings.logging :=
      (LoggingSettings.settles_check hplain homes).field_kept hform.logging rfl _
    have hextraction :
        field fields "extraction" {} (ExtractionSettings.check library) =
          .ok settings.extraction :=
      (ExtractionSettings.settles_check hplain).field_kept hform.extraction rfl _
    change model library "FunsigConfig" _ (.map fields) = _
    rw [model_map hplain, hlogging, hextraction]
    rfl

end Settings
end SourceOutline
