import SourceOutline.Command.Help
import SourceOutline.Console
import SourceOutline.Extractor
import SourceOutline.Settings.Load
import SourceOutline.Settings.Usual

/-!
# Running commands

A command gets its arguments and all that it may look at, and gives back an exit
code, the lines it wrote, and the files as they are afterwards.  Arguments are
checked before anything is done: first that they can be read, then the values of
the options in the order in which they were given, then what is missing, then
what is too much.  Asking for help or for the version goes before all checks of
values.
-/

namespace SourceOutline
namespace Command

structure Surroundings where
  workspace : Workspace
  library : Library := .usual
  logLibrary : LogLibrary := .usual
  environment : Environment := []
  homes : Homes := []
  /-- The settings file of the user. -/
  globalSettings : Path
  /-- The time as it is written in the log. -/
  time : String
  /-- The identifier of the run that the command may begin. -/
  runId : String

/-- What breaks a command off without a message of its own. -/
inductive Crash where
  | settings (fault : LoadFault)
  | stop (stop : Stop)
  | markup (fault : Markup.Fault)

/-- Why a command does not do its work. -/
inductive Failure where
  /-- The arguments are wrong. -/
  | usage (topic : Topic) (fault : UsageFault)
  /-- The command reports what went wrong. -/
  | reported (message : String)
  | crash (crash : Crash)

structure Outcome where
  exitCode : Nat := 0
  journal : Journal
  files : FileStore
  /-- The file that was written, if one was. -/
  saved : Option (Path × Bytes) := none
  crash : Option Crash := none

/-- A command on its way: the lines written so far and the files. -/
structure Progress where
  journal : Journal := {}
  files : FileStore
  saved : Option (Path × Bytes) := none

/-- A step of a command.  What was written before a failure is kept. -/
abbrev Step := ExceptT Failure (StateM Progress)

namespace Step

def print (destination line : String) : Step Unit :=
  modify fun progress => { progress with journal := progress.journal.print destination line }

def status (surroundings : Surroundings) (message style : String) : Step Unit := do
  let progress ← get
  match progress.journal.status surroundings.logLibrary surroundings.time message style with
  | .ok journal => set { progress with journal }
  | .error fault => throw (.crash (.markup fault))

def configure (settings : LoggingSettings) : Step Unit :=
  modify fun progress => { progress with journal := progress.journal.configure settings }

/-- Does the work of an extractor as a run of its own, and delivers its events. -/
def extract {α : Type} (surroundings : Surroundings) (work : Extraction α) : Step α := do
  let (result, session) := work.run.run {}
  modify fun progress =>
    { progress with
      journal := (progress.journal.beginRun surroundings.runId).tell surroundings.logLibrary
        surroundings.time session.events }
  match result with
  | .ok value => return value
  | .error stop => throw (.crash (.stop stop))

end Step

/-! ### Checking arguments -/

/-- What a path given as an argument must be. -/
inductive PathRule where
  | existingDirectory
  | existingFile
  /-- A file that need not be there. -/
  | file
  deriving DecidableEq, Repr

namespace PathRule

def noun : PathRule → String
  | existingDirectory => "Directory"
  | existingFile => "File"
  | file => "File"

/-- Whether a path is written so that only a directory can be meant. -/
def namesDirectory (path : String) : Bool :=
  match (Text.split '/' path.toList).reverse with
  | last :: _ :: _ => last == [] || last == ['.']
  | _ => false

/-- What a path given as an argument leads to. -/
def target (files : FileStore) (path : String) : Except AccessFault Entry :=
  if path.isEmpty then .error .missing
  else
    match files.look (.ofString path) with
    | .ok (.file content) =>
        if namesDirectory path then .error .notDirectory else .ok (.file content)
    | result => result

def check (rule : PathRule) (topic : Topic) (files : FileStore) (hint path : String) :
    Except Failure Path :=
  let wrong (reason : String) : Except Failure Path :=
    .error (.usage topic (.invalidValue hint (rule.noun ++ " " ++ quote path ++ " " ++ reason)))
  match files.pathFault? path with
  | some fault => .error (.crash (.stop (.path fault)))
  | none =>
      match target files path with
      | .error _ => if rule = .file then .ok (.ofString path) else wrong "does not exist."
      | .ok (.file _) =>
          if rule = .existingDirectory then wrong "is a file." else .ok (.ofString path)
      | .ok (.directory _) =>
          if rule = .existingDirectory then .ok (.ofString path) else wrong "is a directory."

end PathRule

def pathRules : List (OptionSpec × PathRule) :=
  [(directoryOption, .existingDirectory), (outputOption, .file),
    (configRootOption, .existingDirectory)]

def pathOption (topic : Topic) (files : FileStore) (arguments : Arguments) (spec : OptionSpec) :
    Except Failure (Option Path) :=
  match arguments.value? spec, pathRules.lookup spec with
  | some value, some rule => (rule.check topic files spec.hint value).map some
  | _, _ => .ok none

/-- Checks the options that were given, in order. -/
def checkGiven (topic : Topic) (files : FileStore) (arguments : Arguments) :
    List OptionSpec → Except Failure Unit
  | [] => .ok ()
  | spec :: rest =>
      match pathOption topic files arguments spec with
      | .error failure => .error failure
      | .ok _ => checkGiven topic files arguments rest

def checkExtra (topic : Topic) (others : List String) : Except Failure Unit :=
  if others.isEmpty then .ok () else .error (.usage topic (.extraArguments others))

structure ExtractArguments where
  directory : Path
  output : Option Path
  extensions : List String
  legacy : Bool
  configRoot : Option Path

structure FileArguments where
  path : Path
  output : Option Path
  legacy : Bool
  configRoot : Option Path

def withDot (extension : String) : String :=
  if extension.toList.head? == some '.' then extension else "." ++ extension

def extractArguments (files : FileStore) (arguments : Arguments) :
    Except Failure ExtractArguments := do
  checkGiven .extract files arguments arguments.order
  match ← pathOption .extract files arguments directoryOption with
  | none => .error (.usage .extract (.missingOption directoryOption))
  | some directory =>
      checkExtra .extract arguments.others
      return {
        directory
        output := ← pathOption .extract files arguments outputOption
        extensions := (arguments.values extensionOption).map withDot
        legacy := arguments.has legacyOption
        configRoot := ← pathOption .extract files arguments configRootOption }

def fileArguments (files : FileStore) (arguments : Arguments) :
    Except Failure FileArguments := do
  checkGiven .file files arguments arguments.order
  match arguments.others with
  | [] => .error (.usage .file (.missingArgument "PATH"))
  | path :: extra =>
      let path ← PathRule.existingFile.check .file files (quote "PATH") path
      checkExtra .file extra
      return {
        path
        output := ← pathOption .file files arguments outputOption
        legacy := arguments.has legacyOption
        configRoot := ← pathOption .file files arguments configRootOption }

/-! ### The commands -/

structure Choices where
  verbose : Bool
  jsonLogs : Bool

/-- The settings of the log with what the command line forces. -/
def Choices.apply (choices : Choices) (settings : LoggingSettings) : LoggingSettings :=
  { level := if choices.verbose then .debug else settings.level
    outputs :=
      if choices.jsonLogs then settings.outputs.map fun output => { output with format := .json }
      else settings.outputs }

/-- What a fault of the settings makes of a command.  Of a malformed file only
the path is told. -/
def settingsFailure : LoadFault → Failure
  | .fault fault => .reported fault.report.text
  | .malformed path =>
      .reported ("[" ++ toString FaultCode.configParse.number ++ "] " ++
        FaultCode.configParse.name ++ ": Failed to parse config at " ++ path)
  | fault => .crash (.settings fault)

/-- Configures logging with settings, if they could be loaded. -/
def configured (choices : Choices) : Except LoadFault Settings → Step Settings
  | .error fault => throw (settingsFailure fault)
  | .ok settings => do
      Step.configure (choices.apply settings.logging)
      return settings

def loadSettings (surroundings : Surroundings) (choices : Choices) (root : Option Path) :
    Step Settings := do
  let progress ← get
  configured choices
    (Settings.load surroundings.homes progress.files surroundings.globalSettings (root.getD {})
      surroundings.environment ([] : Overrides surroundings.library))

/-- Writes a result to a file, or else to the standard output. -/
def writeResult (output : Option Path) (result : Value) : Step Unit := do
  let text := Json.pretty result
  match output with
  | none => Step.print "stdout" text
  | some path =>
      let progress ← get
      let content := Bytes.ofString (text ++ "\n")
      match progress.files.save path content with
      | .ok files => set { progress with files, saved := some (path, content) }
      | .error fault => throw (.reported ("Cannot write " ++ path.text ++ ": " ++ fault.reason))

def runExtract (surroundings : Surroundings) (choices : Choices) (arguments : ExtractArguments) :
    Step Unit := do
  let settings ← loadSettings surroundings choices arguments.configRoot
  let directory := arguments.directory
  Step.status surroundings ("Parsing directory " ++ directory.text) "info"
  if arguments.legacy || settings.extraction.legacyDependencies then
    let functions ← Step.extract surroundings
      (Extractor.parseDirectoryLegacy surroundings.workspace settings.extraction directory
        arguments.extensions)
    Step.status surroundings
      ("Found " ++ Console.pluralize functions.length "function declaration" none) "success"
    writeResult arguments.output (.list (functions.map FunctionRecord.toValue))
  else
    let records ← Step.extract surroundings
      (Extractor.parseDirectory surroundings.workspace settings.extraction directory
        arguments.extensions)
    let count := total (records.map FileRecord.declarationCount)
    Step.status surroundings
      ("Found " ++ Console.pluralize count "declaration" none ++ " in " ++
        Console.pluralize records.length "file" none) "success"
    writeResult arguments.output (.list (records.map FileRecord.toValue))
  match arguments.output with
  | none => return
  | some path => Step.status surroundings ("Results written to " ++ path.text) "success"

def runFile (surroundings : Surroundings) (choices : Choices) (arguments : FileArguments) :
    Step Unit := do
  let settings ← loadSettings surroundings choices arguments.configRoot
  if arguments.legacy || settings.extraction.legacyDependencies then
    let functions ← Step.extract surroundings
      (Extractor.parseFileLegacy surroundings.workspace settings.extraction arguments.path)
    writeResult arguments.output (.list (functions.map FunctionRecord.toValue))
  else
    let record ← Step.extract surroundings
      (Extractor.parseFile surroundings.workspace settings.extraction arguments.path)
    writeResult arguments.output record.toValue

def runTopic (surroundings : Surroundings) (choices : Choices) (topic : Topic)
    (arguments : List String) : Step Unit := do
  let files := (← get).files
  match Arguments.read topic.options true arguments with
  | .error fault => throw (.usage topic fault)
  | .ok arguments =>
      if arguments.has helpOption then Step.print "stdout" topic.help
      else
        match topic with
        | .program => return
        | .extract => runExtract surroundings choices (← extractArguments files arguments)
        | .file => runFile surroundings choices (← fileArguments files arguments)

/-- What is asked of the program itself before any command: the first of help
and version. -/
def askedFirst? (arguments : Arguments) : Option String :=
  (arguments.options.find? fun given =>
    given.spec == helpOption || given.spec == versionOption).map fun given =>
      if given.spec == versionOption then versionText else Topic.program.help

/-- Runs the program with arguments, of which there is at least one.  A name that
is no command but looks like an option is read as one once more. -/
def runProgram (surroundings : Surroundings) (arguments : List String) : Step Unit := do
  let read (arguments : List String) : Step Arguments :=
    match Arguments.read Topic.program.options false arguments with
    | .error fault => throw (.usage .program fault)
    | .ok arguments => return arguments
  let given ← read arguments
  match askedFirst? given, given.others with
  | some text, _ => Step.print "stdout" text
  | none, [] => throw (.usage .program .missingCommand)
  | none, name :: rest =>
      match Topic.named? name with
      | none =>
          match askedFirst? (← read (name :: rest)) with
          | some text => Step.print "stdout" text
          | none =>
              throw (.usage .program
                (.noSuchCommand name (Similar.closest (Topic.commands.map Prod.fst) name)))
      | some topic =>
          let choices := ⟨given.has verboseOption, given.has jsonLogsOption⟩
          Step.configure
            (.single (if choices.jsonLogs then .json else .console)
              (if choices.verbose then .debug else .info))
          runTopic surroundings choices topic rest

namespace Failure

def exitCode : Failure → Nat
  | usage _ _ => 2
  | reported _ => 1
  | crash _ => 1

def message? : Failure → Option String
  | usage topic fault => some (fault.report topic)
  | reported message => some ("Error: " ++ message)
  | crash _ => none

def crash? : Failure → Option Crash
  | .crash cause => some cause
  | _ => none

end Failure

/-- Runs the program.  Without arguments its help is written to the standard
error stream. -/
def run (surroundings : Surroundings) (arguments : List String) : Outcome :=
  let files := surroundings.workspace.files
  if arguments.isEmpty then
    { exitCode := 2, journal := ({} : Journal).print "stderr" Topic.program.help, files }
  else
    match ((runProgram surroundings arguments).run.run { files }) with
    | (.ok (), progress) =>
        { journal := progress.journal, files := progress.files, saved := progress.saved }
    | (.error failure, progress) =>
        { exitCode := failure.exitCode
          journal := failure.message?.elim progress.journal (progress.journal.print "stderr")
          files := progress.files
          saved := progress.saved
          crash := failure.crash? }

end Command
end SourceOutline
