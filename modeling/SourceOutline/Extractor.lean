import SourceOutline.Declaration.Assemble
import SourceOutline.Dependency.Infer
import SourceOutline.Files.Scan
import SourceOutline.Grammar
import SourceOutline.Settings.Extraction

/-!
# Extracting the declarations of files

An extractor turns one file, or every file of a directory, into records.  What
it works with is a value: the files, the parser, the libraries that fail and the
packs.  What it keeps from one call to the next is the cache of loaded grammars
and the language to which its parser was set last; identifiers begin at 1 in
every call.

A file that cannot be read, that is too large or whose grammar cannot be loaded
makes an empty record and one warning.  Three things stop a call: a path that the
file system cannot be asked about, a library that fails in an unexpected way, and
a grammar without a pack, which does not happen as long as the packs are complete.
-/

namespace SourceOutline

/-- What extraction works with. -/
structure Workspace where
  files : FileStore := {}
  /-- The tree that a grammar finds in a source. -/
  parse : String → Bytes → Node
  faults : LibraryFaults := []
  packs : List Pack := Pack.all

/-- What an extractor keeps, and the events it has told. -/
structure Session where
  cache : GrammarCache := {}
  /-- The language that the parser is set to. -/
  language : Option LoadedGrammar := none
  events : List Event := []

/-- A computation that tells events, may load grammars and set the parser, and may
be stopped.  What it did before a stop is kept. -/
abbrev Extraction := ExceptT Stop (StateM Session)

namespace Extraction

def tell (events : List Event) : Extraction Unit :=
  modify fun session => { session with events := session.events ++ events }

def ofExcept {α : Type} : Except Stop α → Extraction α
  | .ok value => pure value
  | .error stop => throw stop

def attempt {α : Type} (x : Extraction α) : Extraction (Except Stop α) :=
  ExceptT.lift x.run

def loadGrammar (workspace : Workspace) (grammar : String) : Extraction LoadedGrammar := do
  let session ← get
  let (result, cache, events) := session.cache.load workspace.faults grammar
  set { session with cache, events := session.events ++ events }
  ofExcept result

def setLanguage (loaded : LoadedGrammar) : Extraction Unit :=
  modify fun session => { session with language := some loaded }

/-- Parses a source in the language that the parser is set to. -/
def parse (workspace : Workspace) (source : Bytes) : Extraction Node := do
  match (← get).language with
  | none => throw .noLanguage
  | some loaded => return workspace.parse loaded.grammar source

end Extraction

namespace Extractor

def bytesPerMb : Int := 1048576

/-- The content of a source file.  A file that is larger than the limit is not read. -/
def readSource (workspace : Workspace) (settings : ExtractionSettings) (path : Path) :
    Except Stop Bytes :=
  let limit := settings.maxFileSizeMb * bytesPerMb
  let unreadable (fault : AccessFault) : Stop := .fault (.sourceUnreadable path.text fault.reason)
  match workspace.files.pathFault? path.text with
  | some fault => .error (.path fault)
  | none =>
      match workspace.files.size path with
      | .error fault => .error (unreadable fault)
      | .ok size =>
          if limit ≠ 0 ∧ limit < size then
            .error (.fault (.sourceTooLarge path.text size limit))
          else
            match workspace.files.read path with
            | .error fault => .error (unreadable fault)
            | .ok content => .ok content

/-- The source of a file, with the parser set to its grammar. -/
def prepare (workspace : Workspace) (settings : ExtractionSettings) (path : Path)
    (grammar : String) : Extraction Bytes := do
  let source ← Extraction.ofExcept (readSource workspace settings path)
  Extraction.setLanguage (← Extraction.loadGrammar workspace grammar)
  return source

/-- What a file gave: its record, its source if it could be read and parsed, and
the first identifier that is still free. -/
structure Extracted where
  record : FileRecord
  source : Option Bytes
  nextId : Int

def parseFailed (path : Path) (fault : Fault) : Event :=
  ⟨.warning, "file_parse_failed",
    [("path", .text path.text), ("error", .text fault.code.name),
      ("message", .text fault.message)]⟩

def fileParsed (path : Path) (grammar : String) (record : FileRecord) (comments : Nat) : Event :=
  ⟨.debug, "file_parsed",
    [("path", .text path.text), ("grammar", .text grammar),
      ("functions", .int record.functions.length), ("classes", .int record.classes.length),
      ("comments", .int comments)]⟩

def failed (path : Path) (id : Int) (fault : Fault) : Extraction Extracted := do
  Extraction.tell [parseFailed path fault]
  return { record := { fileName := path.text }, source := none, nextId := id }

/-- What becomes of a file that cannot be prepared.  A fault of this library makes
an empty record; anything else stops the call. -/
def contain (path : Path) (id : Int) : Stop → Extraction Extracted
  | .fault fault => failed path id fault
  | stop => throw stop

/-- The declarations of a source that was parsed, numbered from `id` on. -/
def assembled (workspace : Workspace) (settings : ExtractionSettings) (path : Path)
    (grammar : String) (id : Int) (source : Bytes) (root : Node) : Extraction Extracted :=
  match workspace.packs.find? (·.name == grammar) with
  | none =>
      throw (.fault (.internal "resolved grammar has no language pack"
        [("grammar", .text grammar)]))
  | some pack => do
      let unit := SourceUnit.ofSource source root pack.comments pack.vocabulary
        settings.commentMaxDistance
      let assembly := unit.assemble id
      let record := assembly.file path.text
      Extraction.tell (assembly.events ++ [fileParsed path grammar record unit.comments.size])
      return { record, source := some source, nextId := assembly.nextId }

/-- Extracts a file whose grammar is known, numbering from `id` on. -/
def extract (workspace : Workspace) (settings : ExtractionSettings) (path : Path)
    (grammar : String) (id : Int) : Extraction Extracted := do
  match ← Extraction.attempt (prepare workspace settings path grammar) with
  | .error stop => contain path id stop
  | .ok source =>
      assembled workspace settings path grammar id source (← Extraction.parse workspace source)

def extractFile? (workspace : Workspace) (settings : ExtractionSettings) (path : Path)
    (id : Int) : Extraction (Option Extracted) := do
  let (grammar, events) := Grammar.resolve path.text
  Extraction.tell events
  match grammar with
  | none => return none
  | some grammar => return some (← extract workspace settings path grammar id)

/-- Extracts files one after the other, numbering from `id` on. -/
def extractAll (workspace : Workspace) (settings : ExtractionSettings) (id : Int) :
    List Path → Extraction (List Extracted)
  | [] => return []
  | path :: rest => do
      match ← extractFile? workspace settings path id with
      | none => extractAll workspace settings id rest
      | some extracted =>
          return extracted :: (← extractAll workspace settings extracted.nextId rest)

/-- The extensions to look for: the given ones, or else those that are there. -/
def extensionsFor (workspace : Workspace) (settings : ExtractionSettings) (directory : Path)
    (extensions : List String) : Extraction (List String) := do
  if extensions.isEmpty then
    match workspace.files.detectExtensions settings.extraExcludedDirs directory.text directory
        settings.defaultExtensions with
    | .error fault => throw (.path fault)
    | .ok (found, events) =>
        Extraction.tell events
        return found
  else return extensions

def extractionStarted (directory : Path) (extensions : List String) (files : Nat) : Event :=
  ⟨.info, "extraction_started",
    [("directory", .text directory.text), ("extensions", .texts extensions),
      ("files", .int files)]⟩

def extractionComplete (directory : Path) (records : List FileRecord) : Event :=
  ⟨.info, "extraction_complete",
    [("directory", .text directory.text), ("files", .int records.length),
      ("declarations", .int (total (records.map FileRecord.declarationCount)))]⟩

/-- Extracts the files of a directory, in order. -/
def scan (workspace : Workspace) (settings : ExtractionSettings) (directory : Path)
    (extensions : List String) : Extraction (List Extracted) := do
  let extensions ← extensionsFor workspace settings directory extensions
  match workspace.files.findFiles settings.extraExcludedDirs directory extensions with
  | .error fault =>
      Extraction.tell [⟨.error, "directory_scan_failed",
        [("directory", .text directory.text), ("error", .text fault.text)]⟩]
      return []
  | .ok files =>
      Extraction.tell [extractionStarted directory extensions files.length]
      let extracted ← extractAll workspace settings 1 files
      Extraction.tell [extractionComplete directory (extracted.map Extracted.record)]
      return extracted

/-- The functions and methods of a file with their dependencies. -/
def Extracted.flatten (extracted : Extracted) : List FunctionRecord :=
  extracted.record.flatten (extracted.source.map Utf8.decode)

/-- The record of one file, empty when its extension belongs to no language. -/
def parseFile (workspace : Workspace) (settings : ExtractionSettings) (path : Path) :
    Extraction FileRecord := do
  match ← extractFile? workspace settings path 1 with
  | none => return { fileName := path.text }
  | some extracted => return extracted.record

/-- The flat list of the functions of one file. -/
def parseFileLegacy (workspace : Workspace) (settings : ExtractionSettings) (path : Path) :
    Extraction (List FunctionRecord) := do
  match ← extractFile? workspace settings path 1 with
  | none => return []
  | some extracted => return extracted.flatten

/-- The records of the files of a directory. -/
def parseDirectory (workspace : Workspace) (settings : ExtractionSettings) (directory : Path)
    (extensions : List String) : Extraction (List FileRecord) := do
  let extracted ← scan workspace settings directory extensions
  return extracted.map Extracted.record

/-- The flat list of the functions of a directory. -/
def parseDirectoryLegacy (workspace : Workspace) (settings : ExtractionSettings)
    (directory : Path) (extensions : List String) : Extraction (List FunctionRecord) := do
  let extracted ← scan workspace settings directory extensions
  return extracted.flatMap Extracted.flatten

end Extractor
end SourceOutline
