import SourceOutline.Fault
import SourceOutline.Files.Store
import SourceOutline.Settings.Model

/-!
# Loading settings

Settings come in layers: the defaults, a global file, the file of a project,
environment variables, and what the caller says.  The layers are merged before
anything is checked, so that a layer may set one field of a section and leave the
others to the layers below.  Then everything is checked at once, and the first
issue is reported.

A section that is null in the files is as good as absent.  Names of sections that
do not exist are an issue, except among the variables, where they mean nothing.
Letter case does not matter in what the caller says.
-/

namespace SourceOutline

inductive LoadFault where
  /-- A file is there but cannot be read. -/
  | unread (fault : AccessFault) (path : String)
  /-- A file is not well-formed text. -/
  | notText (path : String)
  /-- A file is text but not a well-formed document. -/
  | malformed (path : String)
  /-- The parser of documents stops with an exception of another kind. -/
  | raised (kind message : String)
  /-- A file or the merged settings hold something that is not allowed. -/
  | fault (fault : Fault)
  /-- A variable that is read as JSON is broken. -/
  | brokenVariable (shape : String)
  /-- The name of a section is not a text. -/
  | nameNotText
  /-- The home directory of a user is needed and not known. -/
  | noHome
  /-- What is not allowed holds a number with more digits than can be shown. -/
  | unshowable
  /-- Settings were accepted, and are not when they are checked once more.  The issues
  are left as they are. -/
  | refused (issues : List Issue)

/-- A section as the caller gives it: as plain data, which is merged with the
layers below, or checked already, which replaces them and stays as it is. -/
inductive Override (library : Library) where
  | data (value : Value)
  | logging (settings : LoggingSettings) (checked : settings.Checked library)
  | extraction (settings : ExtractionSettings) (checked : settings.Checked library)

namespace Override

variable {library : Library}

/-- The section on logging that plain data make by themselves. -/
def checkLogging (homes : Homes) (value : Value) : Check (Override library) :=
  (LoggingSettings.check library homes value).attach.map fun found =>
    logging found.val ⟨homes, value, found.property⟩

/-- The section on the extraction that plain data make by themselves. -/
def checkExtraction (value : Value) : Check (Override library) :=
  (ExtractionSettings.check library value).attach.map fun found =>
    extraction found.val ⟨value, found.property⟩

def toValue : Override library → Value
  | data value => value
  | logging settings _ => settings.toValue
  | extraction settings _ => settings.toValue

/-- Lays a section of the caller over the settings below. -/
def layOn (entries : Entries) (name : String) : Override library → Entries
  | data value => library.overlay entries [(.text name, value)]
  | checked => Entries.put entries (.text name) checked.toValue

end Override

/-- The sections that the caller gives, with their names. -/
abbrev Overrides (library : Library) := List (String × Override library)

/-- The sections under their own names.  Of several that mean the same section
the first one counts. -/
def Overrides.settled {library : Library} (overrides : Overrides library) : Overrides library :=
  overrides.foldl
    (fun out (name, override) =>
      let name := library.keyword name
      if (out.lookup name).isSome then out else out ++ [(name, override)])
    []

namespace Settings

def projectFile : String := ".funsig.yaml"

/-- The entries of a settings file, none if there is no such file. -/
def readFile (library : Library) (files : FileStore) (path : Path) :
    Except LoadFault Entries :=
  match files.seen? path with
  | .error fault => .error (.unread fault path.text)
  | .ok (some (.file _)) =>
      match files.read path with
      | .error fault => .error (.unread fault path.text)
      | .ok content =>
          match Utf8.decode? content with
          | none => .error (.notText path.text)
          | some text =>
              match library.document text with
              | .error .malformed => .error (.malformed path.text)
              | .error (.raised kind message) => .error (.raised kind message)
              | .ok .null => .ok []
              | .ok (.map entries) => .ok entries
              | .ok _ => .error (.fault (.configParse path.text "top level must be a mapping"))
  | .ok _ => .ok []

def withoutNull (entries : Entries) : Entries :=
  entries.filter fun
    | (_, .null) => false
    | _ => true

/-- All layers merged: the two files, the variables and the caller's sections. -/
def merged {library : Library} (globalFile projectFile fromEnvironment : Entries)
    (overrides : Overrides library) : Entries :=
  let files := withoutNull (Entries.merge (Entries.merge [] globalFile) projectFile)
  overrides.settled.foldl (fun entries (name, override) => override.layOn entries name)
    (library.overlay files fromEnvironment)

def sectionNames : List String := SectionShape.all.map SectionShape.name

def extraIssues (entries : Entries) : List Issue :=
  entries.filterMap fun
    | (.text name, value) =>
        if sectionNames.contains name then none else some ⟨[name], .extra, value⟩
    | _ => none

def checkExtra (entries : Entries) : Check Unit :=
  match extraIssues entries with
  | [] => .ok ()
  | found => .issues found

/-- Checks merged settings, the sections before what does not belong there. -/
def checkMerged (library : Library) (homes : Homes) (entries : Entries) : Check Settings :=
  Check.both
    (Check.map (fun settings _ => settings) (Settings.check library homes (.map entries)))
    (checkExtra entries)

def reportFirst : List Issue → LoadFault
  | [] => .fault (.internal "no issue" [])
  | issue :: _ =>
      if issue.input.hasUnshowable then .unshowable
      else
        .fault
          (.configValue (String.intercalate "." issue.location) issue.input issue.kind.message)

/-- The settings that a check gives. -/
def ofCheck : Check Settings → Except LoadFault Settings
  | .ok settings => .ok settings
  | .issues found => .error (reportFirst found)
  | .noHome => .error .noHome

def hasTextName : Key × Value → Bool
  | (.text _, _) => true
  | _ => false

/-- Checks settings once more, written down as plain data. -/
def recheck (library : Library) (homes : Homes) (settings : Settings) :
    Except LoadFault Settings :=
  match Settings.check library homes settings.toValue with
  | .ok settings => .ok settings
  | .issues found => .error (.refused found)
  | .noHome => .error .noHome

/-- The settings that layers make.  What has been checked is written down as
plain data and checked once more. -/
def ofLayers {library : Library} (homes : Homes) (globalFile projectFile : Entries)
    (environment : Environment) (overrides : Overrides library) : Except LoadFault Settings :=
  match library.readVariables environment with
  | .error name => .error (.brokenVariable name)
  | .ok fromEnvironment =>
      let entries := merged globalFile projectFile fromEnvironment overrides
      if entries.all hasTextName then do
        let settings ← ofCheck (checkMerged library homes entries)
        recheck library homes settings
      else .error .nameNotText

def load {library : Library} (homes : Homes) (files : FileStore) (globalPath root : Path)
    (environment : Environment) (overrides : Overrides library) : Except LoadFault Settings := do
  let globalFile ← readFile library files globalPath
  let project ← readFile library files (root.append [projectFile])
  ofLayers homes globalFile project environment overrides

end Settings
end SourceOutline
