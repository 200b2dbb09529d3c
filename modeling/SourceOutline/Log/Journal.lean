import SourceOutline.Log.Line
import SourceOutline.Settings.Model

/-!
# Delivery of a log

A journal holds how logging is configured, what each thread has for itself, and the
lines that have been delivered.  Configuring makes a handler for each output and drops
the handlers that were there.  An event passes the level of the log twice, once where it
is told and once where the entries of all libraries are gathered; then each handler
writes a line if the entry reaches its own level.  Handlers of standard streams write
nothing while a live display owns the terminal on the thread that made the entry.

Lines are never taken back, and every output gets them in the order in which the
entries were made.
-/

namespace SourceOutline

namespace LogOutput

def isStream (output : LogOutput) : Bool :=
  output.destination == "stderr" || output.destination == "stdout"

def threshold (output : LogOutput) (level : Level) : Int :=
  (output.level.getD level).severity

end LogOutput

namespace LogFormat

def line (library : LogLibrary) (format : LogFormat) (fields : Entries) : String :=
  match format with
  | .json => library.json fields
  | .console => library.console fields

end LogFormat

structure Delivery where
  destination : String
  line : String
  deriving DecidableEq, Repr

structure Handler where
  destination : String
  format : LogFormat
  /-- The severity that an entry must have. -/
  level : Int
  /-- Whether nothing is written while a live display owns the terminal. -/
  yieldsTerminal : Bool
  deriving DecidableEq, Repr

namespace Handler

/-- The handler of an output in a log with a level. -/
def ofOutput (level : Level) (output : LogOutput) : Handler :=
  { destination := output.destination
    format := output.format
    level := output.threshold level
    yieldsTerminal := output.isStream }

def accepts (handler : Handler) (severity : Int) (isMuted : Bool) : Bool :=
  handler.level ≤ severity && !(handler.yieldsTerminal && isMuted)

def delivery (library : LogLibrary) (handler : Handler) (fields : Entries) : Delivery :=
  { destination := handler.destination, line := handler.format.line library fields }

end Handler

/-- Threads by their numbers; the first one is 0. -/
abbrev ThreadId := Nat

/-- What a thread has for itself. -/
structure ThreadState where
  runId : Option String := none
  /-- How many more live displays took the terminal than gave it back. -/
  displays : Int := 0

structure Journal where
  /-- The severity that loggers are made for; none before logging is configured. -/
  gate : Option Int := none
  /-- The severity that every entry must have. -/
  level : Int := Level.warning.severity
  handlers : List Handler := []
  threads : ThreadId → ThreadState := fun _ => {}
  /-- The files that configurations have opened. -/
  opened : List String := []
  delivered : List Delivery := []

namespace Journal

def addOutput (journal : Journal) (level : Level) (output : LogOutput) : Journal :=
  { journal with
    handlers := journal.handlers ++ [.ofOutput level output]
    opened := if output.isStream then journal.opened else journal.opened ++ [output.destination] }

/-- Configures logging anew. -/
def configure (journal : Journal) (settings : LoggingSettings) : Journal :=
  let level := settings.level
  let cleared :=
    { journal with gate := some level.severity, handlers := [], level := level.severity }
  settings.outputs.foldl (fun journal output => journal.addOutput level output) cleared

/-- Changes what a thread has for itself. -/
def onThread (journal : Journal) (thread : ThreadId) (change : ThreadState → ThreadState) :
    Journal :=
  { journal with
    threads := fun other =>
      if other = thread then change (journal.threads other) else journal.threads other }

/-- A live display takes the terminal. -/
def mute (journal : Journal) (thread : ThreadId := 0) : Journal :=
  journal.onThread thread fun state => { state with displays := state.displays + 1 }

/-- A live display gives the terminal back. -/
def unmute (journal : Journal) (thread : ThreadId := 0) : Journal :=
  journal.onThread thread fun state => { state with displays := state.displays - 1 }

def isMuted (journal : Journal) (thread : ThreadId := 0) : Bool :=
  0 < (journal.threads thread).displays

/-- Does work while a live display owns the terminal.  The terminal is given back even
if the work fails. -/
def whileMuted {ε α : Type} (journal : Journal) (work : Journal → Except ε α × Journal)
    (thread : ThreadId := 0) : Except ε α × Journal :=
  let (result, journal) := work (journal.mute thread)
  (result, journal.unmute thread)

def runId (journal : Journal) (thread : ThreadId := 0) : Option String :=
  (journal.threads thread).runId

def beginRun (journal : Journal) (id : String) (thread : ThreadId := 0) : Journal :=
  journal.onThread thread fun state => { state with runId := some id }

def endRun (journal : Journal) (thread : ThreadId := 0) : Journal :=
  journal.onThread thread fun state => { state with runId := none }

/-- What is written where there is no handler at all: warnings and worse go to the
standard error stream, live display or not. -/
def lastResort (entry : LogEntry) (fields : Entries) : List Delivery :=
  if Level.warning.severity ≤ entry.severity then [⟨"stderr", entry.bareLine fields⟩] else []

section Delivery

variable (library : LogLibrary)

/-- The lines that an entry made on a thread gives. -/
def deliveries (journal : Journal) (time : String) (entry : LogEntry) (thread : ThreadId := 0) :
    List Delivery :=
  let fields := library.stamped entry time (journal.runId thread)
  if entry.severity < journal.level then []
  else if journal.handlers.isEmpty then lastResort entry fields
  else
    (journal.handlers.filter (·.accepts entry.severity (journal.isMuted thread))).map
      (·.delivery library fields)

/-- Delivers an entry. -/
def write (journal : Journal) (time : String) (entry : LogEntry) (thread : ThreadId := 0) :
    Journal :=
  { journal with delivered := journal.delivered ++ journal.deliveries library time entry thread }

/-- Delivers an event, once logging is configured. -/
def tellOne (journal : Journal) (time : String) (event : Event) (thread : ThreadId := 0) :
    Journal :=
  match journal.gate with
  | none => journal
  | some gate =>
      if library.passes gate event.level.severity then
        journal.write library time (.ofEvent event) thread
      else journal

/-- Delivers events one after the other. -/
def tell (journal : Journal) (time : String) (events : List Event) (thread : ThreadId := 0) :
    Journal :=
  events.foldl (fun journal event => journal.tellOne library time event thread) journal

end Delivery

def linesOf (journal : Journal) (destination : String) : List String :=
  (journal.delivered.filter (·.destination == destination)).map Delivery.line

end Journal

namespace LoggingSettings

def single (format : LogFormat) (level : Level) : LoggingSettings :=
  { level, outputs := [{ format }] }

end LoggingSettings
end SourceOutline
