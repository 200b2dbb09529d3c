import SourceOutline.Data.Json
import SourceOutline.Log.Event

/-!
# Lines of a log

What an entry looks like in the end is the work of a library, which also lets only
severe enough events through.  Everything about delivery is told for any such library.

The usual one makes of an entry a line in one of two formats.  In JSON all its fields
stand in one object.  For reading, the time, the level, the event and the name of the
logger come first, and the other fields follow in the order of their names; a
text is quoted if it could be mistaken for more than one word.
-/

namespace SourceOutline

namespace Level

/-- How a severity is written in a log. -/
def wordFor (severity : Int) : String :=
  match all.find? (·.severity == severity) with
  | some level => level.word
  | none => "level " ++ toString severity

def severities : List (String × Int) :=
  [("CRITICAL", 50), ("FATAL", 50), ("ERROR", 40), ("WARNING", 30), ("WARN", 30), ("INFO", 20),
    ("DEBUG", 10), ("NOTSET", 0)]

/-- The upper case of a character, as far as it can be an ASCII letter. -/
def upperChar (c : Char) : Char :=
  if c.toNat = 0x131 then 'I' else if c.toNat = 0x17F then 'S' else c.toUpper

/-- The severity with a name in any letter case, or else the given one. -/
def severityNamed (name : String) (otherwise : Int) : Int :=
  (severities.lookup (String.ofList (name.toList.map upperChar))).getD otherwise

end Level

structure LogEntry where
  severity : Int
  event : String
  fields : List (String × Value) := []
  /-- Whether the entry is a message of another library, which has no fields. -/
  isMessage : Bool := true

namespace LogEntry

def ofEvent (event : Event) : LogEntry :=
  { severity := event.level.severity
    event := event.name
    fields := event.fields
    isMessage := false }

/-- The fields of an entry with its level and the time. -/
def prepared (entry : LogEntry) (time : String) : Entries :=
  let fields : Entries :=
    entry.fields.foldl (fun fields (name, value) => Entries.put fields (.text name) value) []
  let fields := Entries.put fields (.text "event") (.text entry.event)
  let fields := Entries.put fields (.text "level") (.text (Level.wordFor entry.severity))
  Entries.put fields (.text "timestamp") (.text time)

/-- Fields with the run to which their entry belongs.  An entry may name its run itself. -/
def withRun (fields : Entries) (runId : Option String) : Entries :=
  match runId, Entries.get? fields (.text "run_id") with
  | some id, none => Entries.put fields (.text "run_id") (.text id)
  | _, _ => fields

/-- The line of an entry that has not been put in any format. -/
def bareLine (entry : LogEntry) (fields : Entries) : String :=
  if entry.isMessage then entry.event else (Value.map fields).shown

end LogEntry

namespace LogLine

/-- Whether a text would not be read as one word. -/
def needsQuotes (text : String) : Bool :=
  text.toList.any fun c =>
    c == ' ' || c == '\t' || c == '=' || c == '\r' || c == '\n' || c == '\x22' || c == '\x27'

def valueText : Value → String
  | .text s => if needsQuotes s then quote s else s
  | value => value.shown

/-- The fields that have places of their own, each with what is put around it. -/
def columns : List (String × String × String) :=
  [("timestamp", "", ""), ("level", "[", "]"), ("event", "", ""), ("logger", "[", "]"),
    ("logger_name", "[", "]")]

def columnText (fields : Entries) : String × String × String → Option String
  | (name, opener, closer) =>
      (Entries.get? fields (.text name)).map fun value => opener ++ value.display ++ closer

/-- The fields without places of their own, in the order of their names. -/
def others (fields : Entries) : List (String × Value) :=
  let named := fields.filterMap fun
    | (.text name, value) =>
        if (columns.map Prod.fst).contains name then none else some (name, value)
    | _ => none
  named.mergeSort fun a b => decide (a.1 ≤ b.1)

def dropTrailingBlanks (text : List Char) : List Char :=
  (text.reverse.dropWhile (· == ' ')).reverse

def console (fields : Entries) : String :=
  let parts :=
    columns.filterMap (columnText fields) ++
      (others fields).map fun (name, value) => name ++ "=" ++ valueText value
  String.ofList (dropTrailingBlanks (String.intercalate " " parts).toList)

def json (fields : Entries) : String :=
  Json.line (.map fields)

end LogLine

/-- The library behind a log. -/
structure LogLibrary where
  /-- Whether a logger that is made for a severity lets an event with another one through. -/
  passes : (gate severity : Int) → Bool
  /-- The fields of an entry at a time, apart from its run. -/
  prepared : LogEntry → String → Entries
  json : Entries → String
  console : Entries → String

namespace LogLibrary

/-- The library that the program runs with. -/
def usual : LogLibrary :=
  { passes := fun gate severity => gate ≤ severity
    prepared := LogEntry.prepared
    json := LogLine.json
    console := LogLine.console }

/-- The fields of an entry with all that is stamped on it. -/
def stamped (library : LogLibrary) (entry : LogEntry) (time : String) (runId : Option String) :
    Entries :=
  LogEntry.withRun (library.prepared entry time) runId

end LogLibrary
end SourceOutline
