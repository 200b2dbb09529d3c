import SourceOutline.Proofs.Settings.Fields

/-!
# What environment variables set

The variable of a field is named by the mark, the section and the field, in any letter
case.  Where no two such variables differ only in case, and each can be read, they make
entries that set exactly the fields that have a variable.  Variables without the mark mean
nothing.

This is what loading relies on when it reads variables and merges its layers, and the usual
libraries keep to it.
-/

namespace SourceOutline
namespace Settings

namespace Field

/-- The variable of a field, in lower case. -/
def variableName (field : Field) : String :=
  Environment.mark ++ field.shape.name ++ "__" ++ field.name

def holdsList : Field → Bool
  | outputs => true
  | defaultExtensions => true
  | extraExcludedDirs => true
  | _ => false

/-- The value that the text of a variable says: lists are written in JSON. -/
def read? (field : Field) (json : String → Option Value) (text : String) : Option Value :=
  if field.holdsList then json text else some (.text text)

/-- The value that variables set the field to. -/
def inEnvironment (field : Field) (json : String → Option Value) (environment : Environment) :
    Option Value :=
  (environment.find? fun entry => lowerCase entry.1 == field.variableName).bind
    fun entry => field.read? json entry.2

end Field

end Settings

open Settings (Field Sectioned)

namespace Environment

/-- The name of the variable begins with the mark of the settings, in any letter case. -/
def IsMeant (entry : String × String) : Prop :=
  mark.toList <+: (lowerCase entry.1).toList

/-- The variables that are meant for the settings are variables of fields, no two of them
differ only in letter case, and each can be read. -/
structure Known (json : String → Option Value) (environment : Environment) : Prop where
  fields : ∀ entry ∈ environment, IsMeant entry →
    ∃ field : Field, lowerCase entry.1 = field.variableName ∧ (field.read? json entry.2).isSome
  apart : environment.Pairwise fun entry other =>
    IsMeant entry → lowerCase entry.1 ≠ lowerCase other.1

end Environment

/-- Layers are merged as mappings.  Documents have each key once, known variables set the
fields that they name, and one source is laid over another entry by entry. -/
structure Library.Layers (library : Library) (json : String → Option Value) : Prop where
  documents : ∀ text entries, library.document text = .ok (.map entries) →
    (Value.map entries).Distinct
  readVariables : ∀ environment, Environment.Known json environment →
    ∃ entries, library.readVariables environment = .ok entries ∧ Sectioned entries ∧
      ∀ field : Field, field.inEntries entries = field.inEnvironment json environment
  overlay : ∀ below above, library.overlay below above = Entries.merge below above

namespace Environment

/-! ## Names in lower case -/

theorem put_eq_putBy (environment : Environment) (name value : String) :
    put environment name value = putBy (· == ·) environment name value := by
  induction environment with
  | nil => rfl
  | cons entry rest ih =>
      rw [put, putBy, ih]
      by_cases hname : entry.1 = name
      · simp [hname]
      · simp [hname]

theorem nodup_lowered (environment : Environment) :
    (environment.lowered.map Prod.fst).Nodup := by
  have hfold (written : Environment) (hwritten : (written.map Prod.fst).Nodup) :
      ((environment.foldl (fun out entry => put out (lowerCase entry.1) entry.2)
        written).map Prod.fst).Nodup := by
    induction environment generalizing written with
    | nil => exact hwritten
    | cons entry rest ih =>
        apply ih
        simp only [put_eq_putBy]
        exact nodup_putBy (fun name => beq_self_eq_true name) hwritten _ _
  exact hfold [] List.nodup_nil

theorem mem_lowered {environment : Environment} {entry : String × String}
    (hentry : entry ∈ environment.lowered) :
    ∃ original ∈ environment, entry = (lowerCase original.1, original.2) := by
  have hfold (environment written : Environment)
      (hentry : entry ∈ environment.foldl (fun out entry => put out (lowerCase entry.1) entry.2)
        written) :
      entry ∈ written ∨ ∃ original ∈ environment, entry = (lowerCase original.1, original.2) := by
    induction environment generalizing written with
    | nil => exact .inl hentry
    | cons first rest ih =>
        rcases ih _ hentry with hput | ⟨original, horiginal, hsame⟩
        · simp only [put_eq_putBy] at hput
          rcases mem_putBy hput with hwritten | ⟨hvalue, hname⟩
          · exact .inl hwritten
          · have hname : entry.1 = lowerCase first.1 := by simpa using hname
            exact .inr ⟨first, List.mem_cons_self, Prod.ext hname hvalue⟩
        · exact .inr ⟨original, List.mem_cons_of_mem first horiginal, hsame⟩
  rcases hfold environment [] hentry with hnil | horiginal
  · contradiction
  · exact horiginal

/-- A name that only one variable has is looked up as if the names were in lower case. -/
theorem lookup_lowered {environment : Environment} {name : String}
    (hapart : environment.Pairwise fun entry other =>
      lowerCase entry.1 = name → lowerCase entry.1 ≠ lowerCase other.1) :
    environment.lowered.lookup name =
      (environment.find? fun entry => lowerCase entry.1 == name).map Prod.snd := by
  have hfold (written : Environment) :
      (environment.foldl (fun out entry => put out (lowerCase entry.1) entry.2)
        written).lookup name =
        ((environment.find? fun entry => lowerCase entry.1 == name).map Prod.snd).or
          (written.lookup name) := by
    induction environment generalizing written with
    | nil => rfl
    | cons entry rest ih =>
        obtain ⟨hfirst, hrest⟩ := List.pairwise_cons.mp hapart
        rw [List.foldl_cons, ih hrest, put_eq_putBy, lookup_putBy, List.find?_cons]
        by_cases hname : lowerCase entry.1 = name
        · have hnone : (rest.find? fun other => lowerCase other.1 == name) = none := by
            rw [List.find?_eq_none]
            intro other hother
            have hne := hfirst other hother hname
            rw [hname] at hne
            simpa using hne.symm
          simp [hname, hnone]
        · simp [beq_false_of_ne hname, Ne.symm hname]
  rw [lowered, hfold []]
  exact Option.or_none

/-! ## Ways -/

theorem way?_own (field : Field) : way? field.shape field.variableName = some [field.name] := by
  cases field <;> decide +kernel

theorem way?_other {field : Field} {shape : SectionShape} (hshape : shape ∈ SectionShape.all)
    (hother : field.shape ≠ shape) : way? shape field.variableName = none := by
  rw [SectionShape.all, List.mem_pair] at hshape
  rcases hshape with rfl | rfl <;> cases field <;>
    first | decide +kernel | exact absurd rfl hother

theorem variableName_injective {field other : Field}
    (hsame : field.variableName = other.variableName) : field = other := by
  have hown := way?_own field
  rw [hsame] at hown
  by_cases hshape : other.shape = field.shape
  · rw [← hshape, way?_own other] at hown
    apply Settings.Field.name_injective
    simpa using hown.symm
  · rw [way?_other field.shape_mem_all hshape] at hown
    contradiction

theorem way?_of_not_isMeant {entry : String × String} (hentry : ¬ IsMeant entry)
    (shape : SectionShape) : way? shape (lowerCase entry.1) = none := by
  have hlead : ¬ (mark ++ shape.name ++ "__").toList.isPrefixOf (lowerCase entry.1).toList := by
    rw [List.isPrefixOf_iff_prefix, String.toList_append, String.toList_append, List.append_assoc]
    exact fun hprefix => hentry ((List.prefix_append _ _).trans hprefix)
  unfold way?
  exact if_neg hlead

theorem valueAt?_eq_read? {field : Field} {text : String}
    (hread : (field.read? Json.read? text).isSome) :
    valueAt? field.shape [field.name] text = field.read? Json.read? text := by
  have hlists : field.shape.listFields.contains field.name = field.holdsList := by
    cases field <;> decide
  have hempty : Json.read? "" = none := rfl
  unfold Field.read? at hread ⊢
  rw [valueAt?, hlists]
  cases hholds : field.holdsList with
  | false => rfl
  | true =>
      -- No text at all is no list.
      have htext : text ≠ "" := by
        rintro rfl
        simp [hholds, hempty] at hread
      simp [htext]

/-! ## Sections -/

/-- Nothing but fields of one section, each one once. -/
structure FieldsOf (shape : SectionShape) (fields : Entries) : Prop where
  keyed : fields.Keyed
  known : ∀ entry ∈ fields, ∃ name ∈ shape.fields, entry.1 = .text name

theorem FieldsOf.put {shape : SectionShape} {fields : Entries} (hfields : FieldsOf shape fields)
    {name : String} (hname : name ∈ shape.fields) (value : Value) :
    FieldsOf shape (Entries.put fields (.text name) value) := by
  have hkeyed := Entries.keyed_put hfields.keyed (.text name) value
  refine ⟨hkeyed, ?_⟩
  intro entry hentry
  have hfound := Entries.get?_of_mem hkeyed hentry
  rw [Entries.get?_put] at hfound
  by_cases hkey : entry.1 = .text name
  · exact ⟨name, hname, hkey⟩
  · rw [if_neg hkey] at hfound
    exact hfields.known entry (Entries.mem_of_get? hfound)

/-- Where every variable means a field or nothing, a section gets exactly the fields that are
set. -/
theorem below?_of_readable {shape : SectionShape} (hshape : shape ∈ SectionShape.all)
    {environment : Environment} (hnames : (environment.map Prod.fst).Nodup)
    (hknown : ∀ entry ∈ environment, way? shape entry.1 = none ∨
      ∃ field : Field, field.shape = shape ∧ entry.1 = field.variableName ∧
        (field.read? Json.read? entry.2).isSome)
    {written : Entries} (hwritten : FieldsOf shape written) :
    ∃ fields, below? shape written environment = some fields ∧ FieldsOf shape fields ∧
      ∀ field : Field, field.shape = shape →
        Entries.get? fields (.text field.name) =
          ((environment.lookup field.variableName).bind (field.read? Json.read?)).or
            (Entries.get? written (.text field.name)) := by
  induction environment generalizing written with
  | nil => exact ⟨written, rfl, hwritten, fun _ _ => rfl⟩
  | cons entry rest ih =>
      obtain ⟨name, text⟩ := entry
      obtain ⟨hnew, hrestNames⟩ := List.nodup_cons.mp hnames
      obtain ⟨hentry, hrest⟩ := List.forall_mem_cons.mp hknown
      rcases hentry with hnone | ⟨own, rfl, rfl, hread⟩
      · obtain ⟨fields, hbelow, hfields, hfound⟩ := ih hrestNames hrest hwritten
        refine ⟨fields, ?_, hfields, ?_⟩
        · rw [below?, hnone]
          exact hbelow
        · rintro field rfl
          have hother : field.variableName ≠ name := by
            rintro rfl
            rw [way?_own field] at hnone
            contradiction
          rw [hfound field rfl, List.lookup_cons, beq_false_of_ne hother]
      · obtain ⟨value, hvalue⟩ := Option.isSome_iff_exists.mp hread
        obtain ⟨fields, hbelow, hfields, hfound⟩ :=
          ih hrestNames hrest (hwritten.put own.name_mem_fields value)
        refine ⟨fields, ?_, hfields, ?_⟩
        · rw [below?, way?_own own]
          simp only
          rw [valueAt?_eq_read? hread, hvalue]
          exact hbelow
        · intro field hsame
          rw [hfound field hsame, Entries.get?_put, List.lookup_cons]
          by_cases hfield : field = own
          · -- The variable of the field does not come again.
            have hnone : rest.lookup own.variableName = none := by
              rw [List.lookup_eq_none_iff]
              intro entry hentry
              have hother : own.variableName ≠ entry.1 := by
                intro hsame
                exact hnew (List.mem_map.mpr ⟨entry, hentry, hsame.symm⟩)
              simpa using hother
            subst hfield
            simp [hnone, hvalue]
          · have hkey : Key.text field.name ≠ .text own.name := by
              simpa using mt Field.name_injective hfield
            have hname : field.variableName ≠ own.variableName :=
              mt variableName_injective hfield
            rw [if_neg hkey, beq_false_of_ne hname]

theorem renamed_of_fieldsOf {shape : SectionShape} (hshape : shape ∈ SectionShape.all)
    {fields : Entries} (hfields : FieldsOf shape fields) : renamed shape fields = fields := by
  have hnamed : ∀ name ∈ shape.fields, shape.fieldNamed? name = some name := by
    rw [SectionShape.all, List.mem_pair] at hshape
    rcases hshape with rfl | rfl <;> decide +kernel
  unfold renamed
  rw [List.foldl_ext _ fun out entry => Entries.put out entry.1 entry.2]
  · have hkeyed : Entries.Keyed ([] ++ fields) := hfields.keyed
    exact Entries.foldl_put_eq_append hkeyed
  · intro out entry hentry
    obtain ⟨key, value⟩ := entry
    obtain ⟨name, hname, rfl⟩ := hfields.known _ hentry
    simp only [hnamed name hname, Option.getD_some]

theorem Known.inEnvironment_eq {environment : Environment} (hknown : environment.Known Json.read?)
    (field : Field) :
    (environment.lowered.lookup field.variableName).bind (field.read? Json.read?) =
      field.inEnvironment Json.read? environment := by
  have hmark : mark.toList <+: field.variableName.toList := by
    rw [Field.variableName, String.append_assoc, String.append_assoc, String.toList_append]
    exact List.prefix_append _ _
  have hapart : environment.Pairwise fun entry other =>
      lowerCase entry.1 = field.variableName → lowerCase entry.1 ≠ lowerCase other.1 := by
    apply hknown.apart.imp
    intro entry other hapart hname
    apply hapart
    unfold IsMeant
    rwa [hname]
  rw [lookup_lowered hapart, Field.inEnvironment, Option.bind_map]
  rfl

theorem sectionValue?_of_known {environment : Environment} (hknown : environment.Known Json.read?)
    {shape : SectionShape} (hshape : shape ∈ SectionShape.all) :
    ∃ fields, sectionValue? shape environment.lowered =
        some (if fields.isEmpty then none else some (.map fields)) ∧
      FieldsOf shape fields ∧ ∀ field : Field, field.shape = shape →
        Entries.get? fields (.text field.name) = field.inEnvironment Json.read? environment := by
  have hvariables : ∀ entry ∈ environment.lowered, way? shape entry.1 = none ∨
      ∃ field : Field, field.shape = shape ∧ entry.1 = field.variableName ∧
        (field.read? Json.read? entry.2).isSome := by
    intro entry hentry
    obtain ⟨original, horiginal, rfl⟩ := mem_lowered hentry
    by_cases hmeant : IsMeant original
    · obtain ⟨field, hname, hread⟩ := hknown.fields original horiginal hmeant
      by_cases hsame : field.shape = shape
      · exact .inr ⟨field, hsame, hname, hread⟩
      · rw [hname]
        exact .inl (way?_other hshape hsame)
    · exact .inl (way?_of_not_isMeant hmeant shape)
  have hwhole : environment.lowered.lookup (mark ++ shape.name) = none := by
    rw [List.lookup_eq_none_iff]
    intro entry hentry
    obtain ⟨original, horiginal, rfl⟩ := mem_lowered hentry
    have hother : mark ++ shape.name ≠ lowerCase original.1 := by
      intro hsame
      have hmeant : IsMeant original := by
        rw [IsMeant, ← hsame, String.toList_append]
        exact List.prefix_append _ _
      -- No field has the name of a section for its variable.
      obtain ⟨field, hname, _⟩ := hknown.fields original horiginal hmeant
      rw [← hsame] at hname
      rw [SectionShape.all, List.mem_pair] at hshape
      rcases hshape with rfl | rfl <;> cases field <;> exact absurd hname (by decide +kernel)
    simpa using hother
  have hnothing : FieldsOf shape [] := ⟨List.nodup_nil, by simp⟩
  obtain ⟨fields, hbelow, hfields, hfound⟩ :=
    below?_of_readable hshape (nodup_lowered environment) hvariables hnothing
  refine ⟨fields, ?_, hfields, ?_⟩
  · unfold sectionValue?
    simp only [hwhole, hbelow, Option.map_some, renamed_of_fieldsOf hshape hfields]
  · intro field hsame
    rw [hfound field hsame, hknown.inEnvironment_eq]
    exact Option.or_none

/-- Sections do not disturb one another. -/
theorem sections_of_known {environment : Environment} (hknown : environment.Known Json.read?)
    {shapes : List SectionShape} (hshapes : ∀ shape ∈ shapes, shape ∈ SectionShape.all)
    (hnames : (shapes.map SectionShape.name).Nodup) :
    ∃ entries, sections environment.lowered shapes = .ok entries ∧ Sectioned entries ∧
      (∀ entry ∈ entries, ∃ shape ∈ shapes, entry.1 = .text shape.name) ∧
      ∀ field : Field, field.shape ∈ shapes →
        field.inEntries entries = field.inEnvironment Json.read? environment := by
  induction shapes with
  | nil => exact ⟨[], rfl, ⟨List.nodup_nil, by simp⟩, by simp, by simp⟩
  | cons shape rest ih =>
      obtain ⟨hshape, hrest⟩ := List.forall_mem_cons.mp hshapes
      obtain ⟨hname, hnames⟩ := List.nodup_cons.mp hnames
      obtain ⟨entries, hsections, hsectioned, hwithin, hfound⟩ := ih hrest hnames
      obtain ⟨fields, hvalue, hfields, hown⟩ := sectionValue?_of_known hknown hshape
      have habsent : Entries.get? entries (.text shape.name) = none := by
        rw [Entries.get?_eq_none_iff]
        intro hmem
        obtain ⟨entry, hentry, hkey⟩ := List.mem_map.mp hmem
        obtain ⟨other, hother, hkey'⟩ := hwithin entry hentry
        rw [hkey', Key.text.injEq] at hkey
        exact hname (List.mem_map.mpr ⟨other, hother, hkey⟩)
      by_cases hempty : fields.isEmpty
      · -- No variable is of this section, so none of its fields is set.
        refine ⟨entries, ?_, hsectioned, ?_, ?_⟩
        · simp [sections, hvalue, hempty, hsections, Except.map]
        · intro entry hentry
          obtain ⟨other, hother, hkey⟩ := hwithin entry hentry
          exact ⟨other, List.mem_cons_of_mem shape hother, hkey⟩
        · intro field hfield
          rcases List.mem_cons.mp hfield with hsame | hother
          · rw [← hown field hsame, List.isEmpty_iff.mp hempty, Field.inEntries, hsame, habsent]
            rfl
          · exact hfound field hother
      · refine ⟨(.text shape.name, .map fields) :: entries, ?_, ?_, ?_, ?_⟩
        · simp [sections, hvalue, hempty, hsections, Except.map]
        · constructor
          · exact List.nodup_cons.mpr ⟨Entries.get?_eq_none_iff.mp habsent, hsectioned.keyed⟩
          · rw [List.forall_mem_cons]
            exact ⟨⟨shape, hshape, fields, rfl, hfields.keyed⟩, hsectioned.sections⟩
        · rw [List.forall_mem_cons]
          refine ⟨⟨shape, List.mem_cons_self, rfl⟩, ?_⟩
          intro entry hentry
          obtain ⟨other, hother, hkey⟩ := hwithin entry hentry
          exact ⟨other, List.mem_cons_of_mem shape hother, hkey⟩
        · intro field hfield
          rcases List.mem_cons.mp hfield with hsame | hother
          · rw [← hown field hsame, Field.inEntries, hsame, Entries.get?_cons, if_pos rfl]
            rfl
          · have hkey : Key.text field.shape.name ≠ .text shape.name := by
              intro hsame
              rw [Key.text.injEq] at hsame
              exact hname (List.mem_map.mpr ⟨field.shape, hother, hsame⟩)
            rw [← hfound field hother, Field.inEntries, Entries.get?_cons, if_neg hkey]
            rfl

/-- Field by field, variables give what they say. -/
theorem toEntries_of_known {environment : Environment} (hknown : environment.Known Json.read?) :
    ∃ entries, environment.toEntries = .ok entries ∧ Sectioned entries ∧
      ∀ field : Field, field.inEntries entries = field.inEnvironment Json.read? environment := by
  obtain ⟨entries, hsections, hsectioned, _, hfound⟩ :=
    sections_of_known hknown (fun _ hshape => hshape) (by decide)
  exact ⟨entries, hsections, hsectioned, fun field => hfound field field.shape_mem_all⟩

end Environment
end SourceOutline
