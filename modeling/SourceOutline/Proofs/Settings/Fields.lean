import SourceOutline.Proofs.Data.Distinct
import SourceOutline.Proofs.Settings.Model
import SourceOutline.Settings.Environment

/-!
# The fields of the settings

Settings have seven fields in two sections.  Entries set a field when they have a mapping
under the name of its section that has an entry under the name of the field.  The settings
that a check makes are told field by field: what the check of the field makes of the value
that is set, and the default where none is.

Entries that have nothing but sections stay so when they are merged, and what they then set
is told field by field as well.
-/

namespace SourceOutline

/-- Of a mapping nothing is made but a model. -/
structure Library.RefusesMappings (library : Library) : Prop where
  integer : ∀ entries n, library.integer (.map entries) ≠ .ok n
  boolean : ∀ entries b, library.boolean (.map entries) ≠ .ok b
  literal : ∀ words entries word, library.literal words (.map entries) ≠ .ok word
  items : ∀ entries values, library.items (.map entries) ≠ .ok values

namespace Settings

inductive Field where
  | level
  | outputs
  | commentMaxDistance
  | defaultExtensions
  | extraExcludedDirs
  | maxFileSizeMb
  | legacyDependencies
  deriving DecidableEq, Repr

namespace Field

abbrev Content : Field → Type
  | level => Level
  | outputs => List LogOutput
  | commentMaxDistance => Int
  | defaultExtensions => List String
  | extraExcludedDirs => List String
  | maxFileSizeMb => Int
  | legacyDependencies => Bool

def shape : Field → SectionShape
  | level => .logging
  | outputs => .logging
  | _ => .extraction

def name : Field → String
  | level => "level"
  | outputs => "outputs"
  | commentMaxDistance => "comment_max_distance"
  | defaultExtensions => "default_extensions"
  | extraExcludedDirs => "extra_excluded_dirs"
  | maxFileSizeMb => "max_file_size_mb"
  | legacyDependencies => "legacy_dependencies"

def content : (field : Field) → Settings → field.Content
  | level, settings => settings.logging.level
  | outputs, settings => settings.logging.outputs
  | commentMaxDistance, settings => settings.extraction.commentMaxDistance
  | defaultExtensions, settings => settings.extraction.defaultExtensions
  | extraExcludedDirs, settings => settings.extraction.extraExcludedDirs
  | maxFileSizeMb, settings => settings.extraction.maxFileSizeMb
  | legacyDependencies, settings => settings.extraction.legacyDependencies

def check (library : Library) (homes : Homes) : (field : Field) → Value → Check field.Content
  | level => Check.choice library LogOutput.levels
  | outputs => Check.items library (LogOutput.check library homes)
  | commentMaxDistance => ExtractionSettings.checkNatural library
  | defaultExtensions => ExtractionSettings.checkExtensions library
  | extraExcludedDirs => Check.items library (Check.string library)
  | maxFileSizeMb => ExtractionSettings.checkNatural library
  | legacyDependencies => Check.boolean library

def inEntries (field : Field) (entries : Entries) : Option Value :=
  (Entries.get? entries (.text field.shape.name)).bind (·.field? field.name)

/-- What the field comes to if it is set to a value or not at all. -/
def checkSet (library : Library) (homes : Homes) (field : Field) :
    Option Value → Check field.Content
  | some value => field.check library homes value
  | none => .ok (field.content {})

/-- The field as the check of its section checks it. -/
def checkIn (library : Library) (homes : Homes) (fields : Entries) (field : Field) :
    Check field.Content :=
  Check.field fields field.name (field.content {}) (field.check library homes)

theorem check_map {library : Library} (hrefuses : library.RefusesMappings) (homes : Homes)
    (field : Field) (entries : Entries) (content : field.Content) :
    field.check library homes (.map entries) ≠ .ok content := by
  -- What a rule of the settings adds comes after the value has been taken by the library.
  have hitems {α : Type} (rule : Value → Check α) (results : List α) :
      Check.items library rule (.map entries) ≠ .ok results := by
    intro haccepted
    obtain ⟨values, hvalues, _⟩ := Check.items_eq_ok.mp haccepted
    exact hrefuses.items _ _ hvalues
  have hnatural (n : Int) : ExtractionSettings.checkNatural library (.map entries) ≠ .ok n := by
    intro haccepted
    obtain ⟨m, hm, _⟩ := Check.bind_eq_ok.mp haccepted
    exact hrefuses.integer _ _ (Check.ofExcept_eq_ok.mp hm)
  intro haccepted
  cases field with
  | level =>
      obtain ⟨word, hword, _⟩ := Check.bind_eq_ok.mp haccepted
      exact hrefuses.literal _ _ _ (Check.ofExcept_eq_ok.mp hword)
  | outputs => exact hitems _ _ haccepted
  | commentMaxDistance => exact hnatural _ haccepted
  | defaultExtensions =>
      obtain ⟨texts, htexts, _⟩ := Check.bind_eq_ok.mp haccepted
      exact hitems _ _ htexts
  | extraExcludedDirs => exact hitems _ _ haccepted
  | maxFileSizeMb => exact hnatural _ haccepted
  | legacyDependencies => exact hrefuses.boolean _ _ (Check.ofExcept_eq_ok.mp haccepted)

theorem shape_mem_all (field : Field) : field.shape ∈ SectionShape.all := by
  cases field <;> simp [shape, SectionShape.all]

theorem name_mem_fields (field : Field) : field.name ∈ field.shape.fields := by
  cases field <;> decide

theorem name_injective {field other : Field} (hsame : field.name = other.name) :
    field = other := by
  cases field <;> cases other <;> first | rfl | exact absurd hsame (by decide)

variable {library : Library} {homes : Homes}

theorem checkIn_of_checkSet {field : Field} {entries fields : Entries}
    {content : field.Content}
    (hsection : Entries.get? entries (.text field.shape.name) = some (.map fields))
    (hset : field.checkSet library homes (field.inEntries entries) = .ok content) :
    field.checkIn library homes fields = .ok content := by
  have hfield : field.inEntries entries = Entries.get? fields (.text field.name) := by
    rw [inEntries, hsection]
    rfl
  rw [hfield] at hset
  unfold checkIn Check.field
  cases hfound : Entries.get? fields (.text field.name) with
  | none =>
      rw [hfound] at hset
      exact hset
  | some value =>
      rw [hfound] at hset
      exact Check.within_eq_ok.mpr hset

/-- A section that is missing has the defaults of its fields. -/
theorem content_of_absent {field : Field} {entries : Entries}
    {content : field.Content}
    (habsent : Entries.get? entries (.text field.shape.name) = none)
    (hset : field.checkSet library homes (field.inEntries entries) = .ok content) :
    field.content {} = content := by
  rw [inEntries, habsent] at hset
  exact Check.ok.inj hset

end Field

/-- There is nothing but sections, each one once and as a mapping with each key once. -/
structure Sectioned (entries : Entries) : Prop where
  keyed : entries.Keyed
  sections : ∀ entry ∈ entries, ∃ shape ∈ SectionShape.all, ∃ fields : Entries,
    entry = (.text shape.name, .map fields) ∧ fields.Keyed

namespace Sectioned

variable {entries below upper : Entries}

theorem get?_cases (hentries : Sectioned entries) (key : Key) :
    Entries.get? entries key = none ∨
      ∃ fields : Entries, Entries.get? entries key = some (.map fields) ∧ fields.Keyed := by
  cases hfound : Entries.get? entries key with
  | none => exact .inl rfl
  | some value =>
      obtain ⟨shape, _, fields, hentry, hfields⟩ :=
        hentries.sections _ (Entries.mem_of_get? hfound)
      obtain ⟨_, rfl⟩ := Prod.mk.inj hentry
      exact .inr ⟨fields, rfl, hfields⟩

theorem exists_text (hentries : Sectioned entries) {key : Key}
    (hkey : key ∈ entries.map Prod.fst) : ∃ name : String, key = .text name := by
  obtain ⟨entry, hentry, rfl⟩ := List.mem_map.mp hkey
  obtain ⟨shape, _, fields, rfl, _⟩ := hentries.sections entry hentry
  exact ⟨shape.name, rfl⟩

theorem merge (hbelow : Sectioned below) (hupper : Sectioned upper) :
    Sectioned (Entries.merge below upper) := by
  have hkeyed : Entries.Keyed (Entries.merge below upper) := Entries.keyed_merge hbelow.keyed upper
  refine ⟨hkeyed, ?_⟩
  intro entry hentry
  obtain ⟨name, hname⟩ : ∃ name : String, entry.1 = .text name := by
    rcases Entries.mem_map_fst_merge (List.mem_map_of_mem hentry) with hkey | hkey
    · exact hbelow.exists_text hkey
    · exact hupper.exists_text hkey
  have hfound := Entries.get?_of_mem hkeyed hentry
  rw [hname, Entries.get?_merge hupper.keyed, ← hname] at hfound
  cases habove : Entries.get? upper entry.1 with
  | none =>
      rw [habove] at hfound
      exact hbelow.sections entry (Entries.mem_of_get? hfound)
  | some value =>
      obtain ⟨shape, hshape, fields, hsection, hfields⟩ :=
        hupper.sections _ (Entries.mem_of_get? habove)
      obtain ⟨hname, rfl⟩ := Prod.mk.inj hsection
      have hvalue : (Value.map fields).over (Entries.get? below entry.1) = entry.2 := by
        simpa [habove] using hfound
      rcases hbelow.get?_cases entry.1 with hunder | ⟨others, hunder, hothers⟩
      · rw [hunder, Value.over_none] at hvalue
        exact ⟨shape, hshape, fields, Prod.ext hname hvalue.symm, hfields⟩
      · rw [hunder, Value.over_map] at hvalue
        exact ⟨shape, hshape, Entries.merge others fields, Prod.ext hname hvalue.symm,
          Entries.keyed_merge hothers fields⟩

/-- What merged entries set a field to.  The upper value stands as it is if it is no
mapping. -/
theorem inEntries_merge (hbelow : Sectioned below) (hupper : Sectioned upper) (field : Field) :
    field.inEntries (Entries.merge below upper) =
      ((field.inEntries upper).map (Value.over (field.inEntries below))).or
        (field.inEntries below) := by
  unfold Field.inEntries
  rw [Entries.get?_merge hupper.keyed]
  rcases hupper.get?_cases (.text field.shape.name) with habove | ⟨fields, habove, hfields⟩
  · rw [habove]
    rfl
  · rcases hbelow.get?_cases (.text field.shape.name) with hunder | ⟨others, hunder, _⟩
    · have hsame : Value.over none = id := funext Value.over_none
      simp [habove, hunder, hsame, Value.field?]
    · simp only [habove, hunder, Option.map_some, Option.some_or, Option.bind_some,
        Value.over_map, Value.field?]
      exact Entries.get?_merge hfields others field.name

end Sectioned

section Check

variable {library : Library}

theorem checkLogging_map (hplain : library.KeepsPlain) (homes : Homes) (fields : Entries) :
    LoggingSettings.check library homes (.map fields) =
      Check.both (Check.map LoggingSettings.mk (Field.level.checkIn library homes fields))
        (Field.outputs.checkIn library homes fields) :=
  Check.model_map hplain _ _ fields

theorem checkExtraction_map (hplain : library.KeepsPlain) (homes : Homes) (fields : Entries) :
    ExtractionSettings.check library (.map fields) =
      Check.both (Check.both (Check.both (Check.both
        (Check.map ExtractionSettings.mk
          (Field.commentMaxDistance.checkIn library homes fields))
        (Field.defaultExtensions.checkIn library homes fields))
        (Field.extraExcludedDirs.checkIn library homes fields))
        (Field.maxFileSizeMb.checkIn library homes fields))
        (Field.legacyDependencies.checkIn library homes fields) :=
  Check.model_map hplain _ _ fields

theorem check_of_fields (hplain : library.KeepsPlain) {homes : Homes} {entries : Entries}
    (hentries : Sectioned entries) {settings : Settings}
    (hfields : ∀ field : Field,
      field.checkSet library homes (field.inEntries entries) = .ok (field.content settings)) :
    Settings.check library homes (.map entries) = .ok settings := by
  have hlogging : Check.field entries "logging" {} (LoggingSettings.check library homes) =
      .ok settings.logging := by
    rcases hentries.get?_cases (.text "logging") with habsent | ⟨fields, hsection, _⟩
    · have hlevel := Field.content_of_absent habsent (hfields .level)
      have houtputs := Field.content_of_absent habsent (hfields .outputs)
      have hsame : settings.logging = {} := by
        rw [LoggingSettings.mk.injEq]
        exact ⟨hlevel.symm, houtputs.symm⟩
      rw [Check.field, habsent, hsame]
    · apply Check.field_of_get? hsection
      have hlevel := Field.checkIn_of_checkSet hsection (hfields .level)
      have houtputs := Field.checkIn_of_checkSet hsection (hfields .outputs)
      rw [checkLogging_map hplain, hlevel, houtputs]
      rfl
  have hextraction : Check.field entries "extraction" {} (ExtractionSettings.check library) =
      .ok settings.extraction := by
    rcases hentries.get?_cases (.text "extraction") with habsent | ⟨fields, hsection, _⟩
    · have hdistance := Field.content_of_absent habsent (hfields .commentMaxDistance)
      have hextensions := Field.content_of_absent habsent (hfields .defaultExtensions)
      have hexcluded := Field.content_of_absent habsent (hfields .extraExcludedDirs)
      have hlargest := Field.content_of_absent habsent (hfields .maxFileSizeMb)
      have hlegacy := Field.content_of_absent habsent (hfields .legacyDependencies)
      have hsame : settings.extraction = {} := by
        rw [ExtractionSettings.mk.injEq]
        exact ⟨hdistance.symm, hextensions.symm, hexcluded.symm, hlargest.symm, hlegacy.symm⟩
      rw [Check.field, habsent, hsame]
    · apply Check.field_of_get? hsection
      have hdistance := Field.checkIn_of_checkSet hsection (hfields .commentMaxDistance)
      have hextensions := Field.checkIn_of_checkSet hsection (hfields .defaultExtensions)
      have hexcluded := Field.checkIn_of_checkSet hsection (hfields .extraExcludedDirs)
      have hlargest := Field.checkIn_of_checkSet hsection (hfields .maxFileSizeMb)
      have hlegacy := Field.checkIn_of_checkSet hsection (hfields .legacyDependencies)
      rw [checkExtraction_map hplain homes, hdistance, hextensions, hexcluded, hlargest, hlegacy]
      rfl
  unfold Settings.check
  rw [Check.model_map hplain, hlogging, hextraction]
  rfl

end Check

end Settings
end SourceOutline
