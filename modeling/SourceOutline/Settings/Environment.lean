import SourceOutline.Data.Json.Read
import SourceOutline.Text.Lower

/-!
# Settings from environment variables

A variable whose name begins with `funsig__` sets a section or a field of one;
two underscores divide the section from the field.  Letter case does not matter,
and of variables that differ only in case the last one counts.

A section and a field that holds a list are written in JSON.  A field set by a
variable of its own goes before the same field in the variable of its section.
-/

namespace SourceOutline

/-- The names of a section and its fields, and which fields hold lists. -/
structure SectionShape where
  name : String
  fields : List String
  listFields : List String

namespace SectionShape

def logging : SectionShape :=
  { name := "logging", fields := ["level", "outputs"], listFields := ["outputs"] }

def extraction : SectionShape :=
  { name := "extraction"
    fields :=
      ["comment_max_distance", "default_extensions", "extra_excluded_dirs", "max_file_size_mb",
        "legacy_dependencies"]
    listFields := ["default_extensions", "extra_excluded_dirs"] }

def all : List SectionShape := [logging, extraction]

/-- The field that a name means, whatever its letter case. -/
def fieldNamed? (shape : SectionShape) (name : String) : Option String :=
  shape.fields.find? fun field => lowerCase name == field

end SectionShape

abbrev Environment := List (String × String)

namespace Environment

/-- Gives a variable a value, at the place it has or else at the end. -/
def put (environment : Environment) (name value : String) : Environment :=
  match environment with
  | [] => [(name, value)]
  | first :: rest =>
      if first.1 = name then (name, value) :: rest else first :: put rest name value

def lowered (environment : Environment) : Environment :=
  environment.foldl (fun out (name, value) => put out (lowerCase name) value) []

/-- What the names of all variables of settings begin with. -/
def mark : String := "funsig__"

/-- The parts of a name between double underscores, `part` being the characters
of the first one that are already read, the last one first. -/
def nameParts (part : List Char) : List Char → List String
  | '_' :: '_' :: rest => String.ofList part.reverse :: nameParts [] rest
  | c :: rest => nameParts (c :: part) rest
  | [] => [String.ofList part.reverse]

/-- The way that a variable leads to below a section, if it leads there. -/
def way? (shape : SectionShape) (name : String) : Option (List String) :=
  let lead := (mark ++ shape.name ++ "__").toList
  if lead.isPrefixOf name.toList then some (nameParts [] (name.toList.drop lead.length)) else none

/-- Puts a value at the end of a way, making mappings where there is nothing.
Where something else than a mapping stands in the way nothing happens. -/
def putAt (entries : Entries) (way : List String) (value : Value) : Entries :=
  match way with
  | [] => entries
  | [name] => Entries.put entries (.text name) value
  | name :: rest =>
      match Entries.get? entries (.text name) with
      | some (.map inner) => Entries.put entries (.text name) (.map (putAt inner rest value))
      | some _ => entries
      | none => Entries.put entries (.text name) (.map (putAt [] rest value))

/-- The value of a variable at the end of a way.  A list field that is not empty
is read as JSON, and everything else is a text. -/
def valueAt? (shape : SectionShape) (way : List String) (text : String) : Option Value :=
  match way with
  | [name] =>
      if shape.listFields.contains name && text != "" then Json.read? text
      else some (.text text)
  | _ => some (.text text)

/-- The entries that variables put below a section; none if one is broken. -/
def below? (shape : SectionShape) (entries : Entries) : Environment → Option Entries
  | [] => some entries
  | (name, text) :: rest =>
      match way? shape name with
      | none => below? shape entries rest
      | some way =>
          (valueAt? shape way text).bind fun value =>
            below? shape (putAt entries way value) rest

/-- Entries under the names of the fields that they mean. -/
def renamed (shape : SectionShape) (entries : Entries) : Entries :=
  entries.foldl
    (fun out (key, value) =>
      match key with
      | .text name => Entries.put out (.text ((shape.fieldNamed? name).getD name)) value
      | _ => Entries.put out key value)
    []

/-- The value of a section, if variables set it.  The outer option is empty when
a variable is broken. -/
def sectionValue? (shape : SectionShape) (environment : Environment) : Option (Option Value) :=
  match environment.lookup (mark ++ shape.name) with
  | none =>
      (below? shape [] environment).map fun entries =>
        if entries.isEmpty then none else some (.map (renamed shape entries))
  | some text =>
      (Json.read? text).bind fun
        | .map whole =>
            (below? shape [] environment).map fun entries =>
              some (.map (renamed shape (Entries.merge whole entries)))
        | .null => some none
        | value => some (some value)

/-- The sections that variables set, or the name of the first one with a broken
variable. -/
def sections (environment : Environment) : List SectionShape → Except String Entries
  | [] => .ok []
  | shape :: rest =>
      match sectionValue? shape environment with
      | none => .error shape.name
      | some value =>
          (sections environment rest).map fun entries =>
            (value.map fun value => (Key.text shape.name, value)).toList ++ entries

def toEntries (environment : Environment) : Except String Entries :=
  sections environment.lowered SectionShape.all

end Environment
end SourceOutline
