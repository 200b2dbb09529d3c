import SourceOutline.Command.Run
import SourceOutline.Tree.Rows

/-!
# The program

The program reads its arguments, the names of the files that it may look at from
the standard input, one a line, and those files; then it runs the command and
writes what came of it.  No grammar is linked into it, so every source is a
single node, and the log is stamped with the milliseconds of a steady clock.
-/

namespace SourceOutline
namespace Program

/-- The names on the remaining lines of a stream. -/
partial def names (input : IO.FS.Stream) : IO (List String) := do
  let line ← input.getLine
  if line.isEmpty then return []
  let name := String.ofList (line.toList.filter fun c => c != '\n' && c != '\r')
  return name :: (← names input)

def add (store : FileStore) (name : String) : IO FileStore := do
  try
    let content ← IO.FS.readBinFile name
    return store.write (.ofString name) content.toList
  catch _ => return store

def readVariable (name : String) : IO (Option (String × String)) := do
  return (← IO.getEnv name).map fun value => (name, value)

def variableNames : List String :=
  SectionShape.all.flatMap fun shape =>
    let lead := "FUNSIG__" ++ shape.name.toUpper
    lead :: shape.fields.map fun field => lead ++ "__" ++ field.toUpper

/-- Writes a line to its destination. -/
def deliver (output error : IO.FS.Stream) (delivery : Delivery) : IO Unit := do
  if delivery.destination = "stdout" then output.putStrLn delivery.line
  else if delivery.destination = "stderr" then error.putStrLn delivery.line
  else
    let handle ← IO.FS.Handle.mk delivery.destination .append
    handle.putStrLn delivery.line

def stopText : Stop → String
  | .fault fault => fault.report.text
  | .path fault => fault.text
  | .raised kind message => kind ++ ": " ++ message
  | .noLanguage => "the parser has no language"

def crashText : Command.Crash → String
  | .settings (.unread fault path) => fault.text path
  | .settings (.notText path) => path ++ " is not text"
  | .settings (.malformed path) => path ++ " is malformed"
  | .settings (.fault fault) => fault.report.text
  | .settings (.brokenVariable name) => "a variable of the section " ++ name ++ " is broken"
  | .settings .nameNotText => "the name of a section is not a text"
  | .settings .noHome => "no home directory is known"
  | .settings (.raised kind message) => kind ++ ": " ++ message
  | .settings .unshowable => Yaml.digitLimitText ""
  | .settings (.refused _) => "settings that were accepted are refused"
  | .stop stop => stopText stop
  | .markup fault => fault.message

end Program
end SourceOutline

open SourceOutline in
def main (arguments : List String) : IO UInt32 := do
  let input ← IO.getStdin
  let output ← IO.getStdout
  let error ← IO.getStderr
  let home := (← IO.getEnv "HOME").getD "/"
  let globalName := home ++ "/.config/funsig/config.yaml"
  let names ← Program.names input
  let place := (← IO.getEnv "PWD").getD "/"
  let store ← (globalName :: Settings.projectFile :: names).foldlM Program.add
    { workingDirectory := (Path.ofString place).names }
  let environment ← Program.variableNames.filterMapM Program.readVariable
  let milliseconds ← IO.monoMsNow
  let outcome := Command.run
    { workspace := { files := store, parse := fun _ source => Node.bare source }
      environment
      homes := [("", home)]
      globalSettings := .ofString globalName
      time := toString milliseconds
      runId := toString milliseconds }
    arguments
  outcome.journal.delivered.forM (Program.deliver output error)
  match outcome.saved with
  | none => pure ()
  | some (path, content) => IO.FS.writeBinFile path.text ⟨content.toArray⟩
  match outcome.crash with
  | none => pure ()
  | some crash => error.putStrLn (Program.crashText crash)
  return outcome.exitCode.toUInt32
