import SourceOutline.Proofs.Data.Equal
import SourceOutline.Proofs.Settings.Environment
import SourceOutline.Proofs.Settings.Load

/-!
# The layers of the settings, field by field

Below what the caller says there are four layers: environment variables, the file of the
project, the global file and the defaults.  They are merged before anything is checked, the
files with each other and then the variables over them.  What comes out is the same as if
each field were taken for itself from the highest layer that sets it.

The reason is that no rule of a field accepts a mapping.  So an accepted value that is laid
over another one takes its place whole, and only sections are ever merged entry by entry.
-/

namespace SourceOutline
namespace Settings

variable {library : Library} {json : String → Option Value}

/-- What the two files and the environment say. -/
structure Layers where
  globalFile : Entries
  project : Entries
  environment : Environment

/-- Nothing but sections given as mappings, with nothing but their own fields. -/
def OnlyFields (entries : Entries) : Prop :=
  ∀ entry ∈ entries, ∃ shape ∈ SectionShape.all, ∃ fields : Entries,
    entry = (.text shape.name, .map fields) ∧
      ∀ field ∈ fields, ∃ name ∈ shape.fields, field.1 = .text name

namespace Layers

/-- The files have the mappings of the layers; an absent or empty file has an empty one. -/
structure ReadFrom (library : Library) (layers : Layers) (files : FileStore) (globalPath root : Path) : Prop where
  globalFile : readFile library files globalPath = .ok layers.globalFile
  project : readFile library files (root.append [projectFile]) = .ok layers.project

/-- The value that the highest of the layers that set a field sets it to. -/
def given (json : String → Option Value) (layers : Layers) (field : Field) : Option Value :=
  (field.inEnvironment json layers.environment).or
    ((field.inEntries layers.project).or (field.inEntries layers.globalFile))

/-- Every section and every field in the layers is known, and the values that are given
are accepted. -/
structure Valid (library : Library) (json : String → Option Value) (homes : Homes)
    (layers : Layers) : Prop where
  globalFile : OnlyFields layers.globalFile
  project : OnlyFields layers.project
  environment : layers.environment.Known json
  values : ∀ field value, layers.given json field = some value →
    ∃ content, field.check library homes value = .ok content

/-- A field is set in the same layers to the same values. -/
structure AgreeOn (json : String → Option Value) (layers other : Layers) (field : Field) :
    Prop where
  globalFile : field.inEntries layers.globalFile = field.inEntries other.globalFile
  project : field.inEntries layers.project = field.inEntries other.project
  environment :
    field.inEnvironment json layers.environment = field.inEnvironment json other.environment

end Layers

/-! ## Files -/

/-- A settings file gives mappings that have each key once. -/
theorem readFile_distinct (hlayers : library.Layers json) {files : FileStore} {path : Path}
    {entries : Entries} (hread : readFile library files path = .ok entries) :
    (Value.map entries).Distinct := by
  have hempty : (Value.map []).Distinct := .map List.Pairwise.nil (by simp)
  unfold readFile at hread
  split at hread
  next => cases hread
  next =>
    split at hread
    next => cases hread
    next =>
      split at hread
      next => cases hread
      next text _ =>
        split at hread
        next => cases hread
        next => cases hread
        next =>
          cases hread
          exact hempty
        next hdocument =>
          cases hread
          exact hlayers.documents text _ hdocument
        next => cases hread
  next =>
    cases hread
    exact hempty

theorem Sectioned.of_readFile (hlayers : library.Layers json) {files : FileStore} {path : Path}
    {entries : Entries} (hread : readFile library files path = .ok entries)
    (hknown : OnlyFields entries) : Sectioned entries := by
  obtain ⟨hapart, hinside⟩ := (readFile_distinct hlayers hread).of_map
  constructor
  · apply hapart.keyed
    intro entry hentry
    obtain ⟨shape, _, fields, rfl, _⟩ := hknown entry hentry
    exact ⟨shape.name, rfl⟩
  · intro entry hentry
    obtain ⟨shape, hshape, fields, rfl, hfields⟩ := hknown entry hentry
    refine ⟨shape, hshape, fields, rfl, ?_⟩
    apply (hinside _ hentry).of_map.1.keyed
    intro field hfield
    obtain ⟨name, _, hname⟩ := hfields field hfield
    exact ⟨name, hname⟩

/-! ## Merged layers -/

namespace Sectioned

variable {entries : Entries}

theorem nil : Sectioned [] :=
  ⟨List.nodup_nil, by simp⟩

theorem withoutNull_eq (hentries : Sectioned entries) : withoutNull entries = entries := by
  unfold withoutNull
  rw [List.filter_eq_self]
  intro entry hentry
  obtain ⟨shape, _, fields, rfl, _⟩ := hentries.sections entry hentry
  rfl

theorem all_hasTextName (hentries : Sectioned entries) : entries.all hasTextName := by
  rw [List.all_eq_true]
  intro entry hentry
  obtain ⟨shape, _, fields, rfl, _⟩ := hentries.sections entry hentry
  rfl

theorem checkExtra_eq_ok (hentries : Sectioned entries) : checkExtra entries = .ok () := by
  have hnone : extraIssues entries = [] := by
    unfold extraIssues
    rw [List.filterMap_eq_nil_iff]
    intro entry hentry
    obtain ⟨shape, hshape, fields, rfl, _⟩ := hentries.sections entry hentry
    have hname : shape.name ∈ sectionNames := List.mem_map_of_mem hshape
    simp [hname]
  rw [checkExtra, hnone]

end Sectioned

/-- What is laid over another value takes its place, if it is no mapping. -/
theorem over_or {above below : Option Value} {value : Value}
    (hvalue : ∀ entries, value ≠ .map entries) (hgiven : above.or below = some value) :
    (above.map (Value.over below)).or below = some value := by
  cases above with
  | none => simpa using hgiven
  | some upper =>
      obtain rfl := Option.some.inj hgiven
      simp [Value.over_of_ne_map hvalue]

namespace Layers

/-- The layers have nothing but sections, and so have the variables as entries. -/
structure Prepared (json : String → Option Value) (layers : Layers) (fromEnvironment : Entries) :
    Prop where
  globalFile : Sectioned layers.globalFile
  project : Sectioned layers.project
  ofEnvironment : Sectioned fromEnvironment
  found : ∀ field : Field,
    field.inEntries fromEnvironment = field.inEnvironment json layers.environment

variable {layers : Layers} {fromEnvironment : Entries}

/-- The layers merged without anything that the caller says. -/
def mergedBy (library : Library) (layers : Layers) (fromEnvironment : Entries) : Entries :=
  merged layers.globalFile layers.project fromEnvironment ([] : Overrides library)

theorem Prepared.merged_eq (hlibrary : library.Layers json)
    (hlayers : layers.Prepared json fromEnvironment) :
    layers.mergedBy library fromEnvironment =
      Entries.merge (Entries.merge (Entries.merge [] layers.globalFile) layers.project)
        fromEnvironment := by
  have hfiles := (Sectioned.nil.merge hlayers.globalFile).merge hlayers.project
  change library.overlay (withoutNull _) fromEnvironment = _
  rw [hlibrary.overlay, hfiles.withoutNull_eq]

/-- Layers of sections merge into sections. -/
theorem Prepared.sectioned (hlibrary : library.Layers json)
    (hlayers : layers.Prepared json fromEnvironment) :
    Sectioned (layers.mergedBy library fromEnvironment) := by
  rw [hlayers.merged_eq hlibrary]
  exact ((Sectioned.nil.merge hlayers.globalFile).merge hlayers.project).merge
    hlayers.ofEnvironment

/-- A field of the merged layers is that of the uppermost layer that gives it. -/
theorem Prepared.inEntries_merged (hlibrary : library.Layers json)
    (hlayers : layers.Prepared json fromEnvironment) {field : Field}
    (hgiven : ∀ value, layers.given json field = some value →
      ∀ entries, value ≠ .map entries) :
    field.inEntries (layers.mergedBy library fromEnvironment) = layers.given json field := by
  have hglobal := Sectioned.nil.merge hlayers.globalFile
  have hfiles := hglobal.merge hlayers.project
  have hlowest : field.inEntries (Entries.merge [] layers.globalFile) =
      field.inEntries layers.globalFile := by
    have hsame : Value.over none = id := funext Value.over_none
    have hnil : field.inEntries [] = none := rfl
    rw [Sectioned.nil.inEntries_merge hlayers.globalFile, hnil, hsame, Option.map_id,
      Option.or_none]
    rfl
  rw [hlayers.merged_eq hlibrary, hfiles.inEntries_merge hlayers.ofEnvironment,
    hglobal.inEntries_merge hlayers.project, hlowest, hlayers.found]
  cases hvalue : layers.given json field with
  | none =>
      obtain ⟨henvironment, hfiles⟩ := Option.or_eq_none_iff.mp hvalue
      obtain ⟨hproject, hglobal⟩ := Option.or_eq_none_iff.mp hfiles
      rw [henvironment, hproject, hglobal]
      rfl
  | some value =>
      have hplain := hgiven value hvalue
      apply over_or hplain
      cases henvironment : field.inEnvironment json layers.environment with
      | some _ => simpa [given, henvironment] using hvalue
      | none =>
          rw [given, henvironment, Option.none_or] at hvalue
          exact over_or hplain hvalue

/-- The libraries behave as loading relies on. -/
structure LawfulFor (library : Library) (json : String → Option Value) : Prop where
  plain : library.KeepsPlain
  refuses : library.RefusesMappings
  layers : library.Layers json

theorem Valid.load_of_checkSet (hlibrary : LawfulFor library json)
    {homes : Homes} {files : FileStore} {globalPath root : Path}
    (hvalid : layers.Valid library json homes)
    (hfiles : layers.ReadFrom library files globalPath root) {settings : Settings}
    (hfields : ∀ field : Field,
      field.checkSet library homes (layers.given json field) = .ok (field.content settings)) :
    load homes files globalPath root layers.environment ([] : Overrides library) =
      .ok settings := by
  obtain ⟨fromEnvironment, hvariables, hsectioned, hfound⟩ :=
    hlibrary.layers.readVariables _ hvalid.environment
  have hlayers : layers.Prepared json fromEnvironment :=
    { globalFile := .of_readFile hlibrary.layers hfiles.globalFile hvalid.globalFile
      project := .of_readFile hlibrary.layers hfiles.project hvalid.project
      ofEnvironment := hsectioned
      found := hfound }
  have hmerged := hlayers.sectioned hlibrary.layers
  have hchecked : Settings.check library homes
      (.map (layers.mergedBy library fromEnvironment)) = .ok settings := by
    apply check_of_fields hlibrary.plain hmerged
    intro field
    rw [hlayers.inEntries_merged hlibrary.layers, hfields field]
    rintro value hvalue entries rfl
    obtain ⟨content, hcontent⟩ := hvalid.values field _ hvalue
    exact field.check_map hlibrary.refuses homes entries content hcontent
  unfold load
  rw [hfiles.globalFile, hfiles.project]
  change ofLayers homes layers.globalFile layers.project layers.environment
    ([] : Overrides library) = .ok settings
  rw [ofLayers_eq_ofMerged hlibrary.plain hvariables]
  change ofMerged library homes (layers.mergedBy library fromEnvironment) = .ok settings
  rw [ofMerged, if_pos hmerged.all_hasTextName, checkMerged, hchecked, hmerged.checkExtra_eq_ok]
  rfl

/-- Settings can be made field by field. -/
theorem exists_contents (contents : (field : Field) → field.Content) :
    ∃ settings, ∀ field : Field, field.content settings = contents field := by
  let settings : Settings :=
    { logging := { level := contents .level, outputs := contents .outputs }
      extraction :=
        { commentMaxDistance := contents .commentMaxDistance
          defaultExtensions := contents .defaultExtensions
          extraExcludedDirs := contents .extraExcludedDirs
          maxFileSizeMb := contents .maxFileSizeMb
          legacyDependencies := contents .legacyDependencies } }
  refine ⟨settings, ?_⟩
  intro field
  cases field <;> rfl

/-- Layers whose fields are all accepted have settings. -/
theorem Valid.exists_settings {homes : Homes} (hvalid : layers.Valid library json homes) :
    ∃ settings, ∀ field : Field,
      field.checkSet library homes (layers.given json field) = .ok (field.content settings) := by
  have haccepted (field : Field) :
      ∃ content, field.checkSet library homes (layers.given json field) = .ok content := by
    cases hvalue : layers.given json field with
    | none => exact ⟨_, rfl⟩
    | some value => exact hvalid.values field value hvalue
  choose contents hcontents using haccepted
  obtain ⟨settings, hsettings⟩ := exists_contents contents
  exact ⟨settings, fun field => by rw [hcontents field, hsettings field]⟩

end Layers

/-- Settings have field by field what the highest layer gives, and the default where no layer
gives anything.  Settings from layers that differ in one field differ in that field alone. -/
theorem load_fieldByField (hlibrary : Layers.LawfulFor library json)
    {homes : Homes} {files : FileStore} {globalPath root : Path} {layers : Layers}
    (hfiles : layers.ReadFrom library files globalPath root)
    (hvalid : layers.Valid library json homes) :
    ∃ settings,
      load homes files globalPath root layers.environment ([] : Overrides library) =
        .ok settings ∧
      (∀ field : Field,
        field.checkSet library homes (layers.given json field) =
          .ok (field.content settings)) ∧
      ∀ (otherFiles : FileStore) (otherRoot : Path) (other : Layers) (changed : Field),
        other.ReadFrom library otherFiles globalPath otherRoot →
        other.Valid library json homes →
        (∀ field ≠ changed, layers.AgreeOn json other field) →
        ∃ others,
          load homes otherFiles globalPath otherRoot other.environment
            ([] : Overrides library) = .ok others ∧
          ∀ field ≠ changed, field.content others = field.content settings := by
  obtain ⟨settings, hsettings⟩ := hvalid.exists_settings
  refine ⟨settings, hvalid.load_of_checkSet hlibrary hfiles hsettings, hsettings, ?_⟩
  intro otherFiles otherRoot other changed hotherFiles hother hagree
  obtain ⟨others, hothers⟩ := hother.exists_settings
  refine ⟨others, hother.load_of_checkSet hlibrary hotherFiles hothers, ?_⟩
  intro field hfield
  have hgiven : layers.given json field = other.given json field := by
    obtain ⟨hglobal, hproject, henvironment⟩ := hagree field hfield
    rw [Layers.given, Layers.given, hglobal, hproject, henvironment]
  have hsame := hsettings field
  rw [hgiven, hothers field] at hsame
  exact Check.ok.inj hsame

/-- A global file that sets three fields, and a project that sets one of them anew. -/
def layeredFiles : FileStore :=
  { entries :=
      [("global.yaml", .file (Utf8.encode
        ("extraction:\n  max_file_size_mb: 2\n  comment_max_distance: 4\n" ++
          "  default_extensions: [.PY]\n").toList)),
      ("project", .directory
        [(".funsig.yaml",
          .file (Utf8.encode "extraction:\n  max_file_size_mb: 3\n".toList))])] }

def layered : Layers :=
  { globalFile :=
      [(.text "extraction", .record
        [("max_file_size_mb", .int 2), ("comment_max_distance", .int 4),
          ("default_extensions", .texts [".PY"])])]
    project := [(.text "extraction", .record [("max_file_size_mb", .int 3)])]
    environment :=
      [("PATH", "/bin"), ("Funsig__Extraction__Default_Extensions", "[\".Ts\"]")] }

def layeredGiven : Field → Option Value
  | .maxFileSizeMb => some (.int 3)
  | .commentMaxDistance => some (.int 4)
  | .defaultExtensions => some (.texts [".Ts"])
  | _ => none

theorem given_layered (field : Field) :
    layered.given Json.read? field = layeredGiven field := by
  cases field <;> decide +kernel

theorem layered_readFrom :
    layered.ReadFrom .usual layeredFiles { names := ["global.yaml"] } { names := ["project"] } := by
  have hread {path : Path} {entries : Entries}
      (hentries : (readFile .usual layeredFiles path).toOption = some entries) :
      readFile .usual layeredFiles path = .ok entries := by
    cases hfile : readFile .usual layeredFiles path with
    | ok own =>
        rw [hfile] at hentries
        exact congrArg Except.ok (Option.some.inj hentries)
    | error fault =>
        rw [hfile] at hentries
        contradiction
  exact ⟨hread (by decide +kernel), hread (by decide +kernel)⟩

theorem layered_known : layered.environment.Known Json.read? := by
  have hpath : ¬ Environment.IsMeant ("PATH", "/bin") := by
    unfold Environment.IsMeant
    decide +kernel
  constructor
  · simp only [layered, List.forall_mem_cons]
    refine ⟨fun hmeant => absurd hmeant hpath, fun _ => ?_, by simp⟩
    exact ⟨.defaultExtensions, by decide +kernel, by decide +kernel⟩
  · simp [layered, hpath]

theorem layered_valid : layered.Valid .usual Json.read? [] := by
  have hextraction : SectionShape.extraction ∈ SectionShape.all := by simp [SectionShape.all]
  constructor
  · intro entry hentry
    obtain rfl := List.mem_singleton.mp hentry
    exact ⟨.extraction, hextraction, _, rfl, by simp [SectionShape.extraction]⟩
  · intro entry hentry
    obtain rfl := List.mem_singleton.mp hentry
    exact ⟨.extraction, hextraction, _, rfl, by simp [SectionShape.extraction]⟩
  · exact layered_known
  · intro field value hvalue
    rw [given_layered] at hvalue
    cases field with
    | maxFileSizeMb =>
        cases hvalue
        exact ⟨3, rfl⟩
    | commentMaxDistance =>
        cases hvalue
        exact ⟨4, rfl⟩
    | defaultExtensions =>
        cases hvalue
        exact ⟨[".Ts"].map lowerCase, rfl⟩
    | _ => contradiction

theorem load_fieldByField_layered :
    ∃ settings, load [] layeredFiles { names := ["global.yaml"] } { names := ["project"] }
        layered.environment ([] : Overrides .usual) = .ok settings ∧
      settings.extraction.maxFileSizeMb = 3 ∧
      settings.extraction.commentMaxDistance = 4 ∧
      settings.extraction.defaultExtensions = [".ts"] ∧
      settings.logging.level = .info := by
  have hlibrary : Layers.LawfulFor .usual Json.read? :=
    { plain := Library.usual_keepsPlain
      refuses := Library.usual_refusesMappings
      layers := Library.usual_layers }
  obtain ⟨settings, hload, hfields, _⟩ :=
    load_fieldByField hlibrary layered_readFrom layered_valid
  simp only [given_layered] at hfields
  have hlargest := Check.ok.inj (hfields .maxFileSizeMb)
  have hdistance := Check.ok.inj (hfields .commentMaxDistance)
  have hextensions := Check.ok.inj (hfields .defaultExtensions)
  have hlevel := Check.ok.inj (hfields .level)
  have hlower : [".Ts"].map lowerCase = [".ts"] := by decide +kernel
  exact ⟨settings, hload, hlargest.symm, hdistance.symm, hextensions.symm.trans hlower,
    hlevel.symm⟩

end Settings
end SourceOutline
