import SourceOutline.Files.Scan
import SourceOutline.Log.Event
import SourceOutline.Settings.Extraction
import SourceOutline.Settings.Library

/-!
# Settings and their rules

Settings have two sections, one for logging and one for the extraction.  Each
field has a default and a rule.  Some rules also bring a value into a standard
form: extensions are written in lower case, and the path of a log file has its
home directory filled in.
-/

namespace SourceOutline

inductive LogFormat where
  | json
  | console
  deriving DecidableEq, Repr

namespace LogFormat

def name : LogFormat → String
  | json => "json"
  | console => "console"

end LogFormat

structure LogOutput where
  format : LogFormat := .console
  destination : String := "stderr"
  /-- The level of this output, or none to take the level of the log. -/
  level : Option Level := none
  deriving DecidableEq, Repr

structure LoggingSettings where
  level : Level := .info
  outputs : List LogOutput := [{}]
  deriving DecidableEq, Repr

structure Settings where
  logging : LoggingSettings := {}
  extraction : ExtractionSettings := {}
  deriving DecidableEq, Repr

/-- The home directories of users; the empty name is the current user. -/
abbrev Homes := List (String × String)

namespace Path

/-- The user in whose home directory a path lies, if it begins with a tilde. -/
def homeUser? (path : Path) : Option String :=
  if path.isAbsolute then none
  else
    match path.names with
    | [] => none
    | first :: _ =>
        match first.toList with
        | '~' :: user => some (String.ofList user)
        | _ => none

/-- Replaces a leading tilde by a home directory.  None when it is not known. -/
def expandHome (homes : Homes) (path : Path) : Option Path :=
  match path.homeUser? with
  | none => some path
  | some user =>
      (homes.lookup user).map fun home => (ofString home).append path.names.tail

end Path

namespace LogOutput

def formats : List (String × LogFormat) :=
  [("json", .json), ("console", .console)]

def levels : List (String × Level) :=
  Level.all.map fun level => (level.name, level)

/-- The standard stream or the file that a text names.  A user whose name holds a null
character is not looked up. -/
def destinationOfText (homes : Homes) (value : Value) (text : String) : Check String :=
  if text = "stderr" ∨ text = "stdout" then .ok text
  else
    let path := Path.ofString text
    if path.homeUser?.any hasNull then .fail (.rule "embedded null byte") value
    else
      match path.expandHome homes with
      | none => .noHome
      | some path =>
          if path.isAbsolute then .ok path.text
          else .fail (.rule ("File destination must be absolute path: " ++ text)) value

def checkDestination (library : Library) (homes : Homes) (value : Value) : Check String :=
  (Check.string library value).bind (destinationOfText homes value)

def check (library : Library) (homes : Homes) : Value → Check LogOutput :=
  Check.model library "LogOutputConfig" fun entries =>
    Check.both
      (Check.both
        (Check.map LogOutput.mk
          (Check.field entries "format" .console (Check.choice library formats)))
        (Check.field entries "destination" "stderr" (checkDestination library homes)))
      (Check.field entries "level" none (Check.optional (Check.choice library levels)))

def toValue (output : LogOutput) : Value :=
  .record
    [("format", .text output.format.name), ("destination", .text output.destination),
      ("level", .ofOption (output.level.map fun level => .text level.name))]

end LogOutput

namespace LoggingSettings

def check (library : Library) (homes : Homes) : Value → Check LoggingSettings :=
  Check.model library "LoggingConfig" fun entries =>
    Check.both
      (Check.map LoggingSettings.mk
        (Check.field entries "level" .info (Check.choice library LogOutput.levels)))
      (Check.field entries "outputs" [{}] (Check.items library (LogOutput.check library homes)))

/-- A check of plain data has made these settings, with the homes that were known then. -/
def Checked (library : Library) (settings : LoggingSettings) : Prop :=
  ∃ homes value, check library homes value = .ok settings

def toValue (settings : LoggingSettings) : Value :=
  .record
    [("level", .text settings.level.name),
      ("outputs", .list (settings.outputs.map LogOutput.toValue))]

end LoggingSettings

namespace ExtractionSettings

/-- A whole number that is not negative. -/
def checkNatural (library : Library) (value : Value) : Check Int :=
  (Check.integer library value).bind fun n =>
    if n < 0 then .fail (.rule ("Must be >= 0, got " ++ toString n)) value else .ok n

def checkExtensions (library : Library) (value : Value) : Check (List String) :=
  (Check.items library (Check.string library) value).bind fun extensions =>
    match extensions.find? fun extension => extension.toList.head? != some '.' with
    | some extension => .fail (.rule ("Extension must start with '.': " ++ extension)) value
    | none => .ok (extensions.map lowerCase)

def check (library : Library) : Value → Check ExtractionSettings :=
  Check.model library "ExtractionConfig" fun entries =>
    let defaults : ExtractionSettings := {}
    Check.both
      (Check.both
        (Check.both
          (Check.both
            (Check.map ExtractionSettings.mk
              (Check.field entries "comment_max_distance" defaults.commentMaxDistance
                (checkNatural library)))
            (Check.field entries "default_extensions" defaults.defaultExtensions
              (checkExtensions library)))
          (Check.field entries "extra_excluded_dirs" defaults.extraExcludedDirs
            (Check.items library (Check.string library))))
        (Check.field entries "max_file_size_mb" defaults.maxFileSizeMb (checkNatural library)))
      (Check.field entries "legacy_dependencies" defaults.legacyDependencies
        (Check.boolean library))

/-- A check of plain data has made these settings. -/
def Checked (library : Library) (settings : ExtractionSettings) : Prop :=
  ∃ value, check library value = .ok settings

def toValue (settings : ExtractionSettings) : Value :=
  .record
    [("comment_max_distance", .int settings.commentMaxDistance),
      ("default_extensions", .texts settings.defaultExtensions),
      ("extra_excluded_dirs", .texts settings.extraExcludedDirs),
      ("max_file_size_mb", .int settings.maxFileSizeMb),
      ("legacy_dependencies", .bool settings.legacyDependencies)]

end ExtractionSettings

namespace Settings

def check (library : Library) (homes : Homes) : Value → Check Settings :=
  Check.model library "FunsigConfig" fun entries =>
    Check.both
      (Check.map Settings.mk
        (Check.field entries "logging" {} (LoggingSettings.check library homes)))
      (Check.field entries "extraction" {} (ExtractionSettings.check library))

def toValue (settings : Settings) : Value :=
  .record [("logging", settings.logging.toValue), ("extraction", settings.extraction.toValue)]

end Settings
end SourceOutline
