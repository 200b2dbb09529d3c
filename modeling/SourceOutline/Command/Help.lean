import SourceOutline.Command.Arguments

/-!
# Commands, their options and their help
-/

namespace SourceOutline
namespace Command

/-- The program by itself, or one of its commands. -/
inductive Topic where
  | program
  | extract
  | file
  deriving DecidableEq, Repr

def directoryOption : OptionSpec := ⟨["-d", "--directory"], true⟩
def outputOption : OptionSpec := ⟨["-o", "--output"], true⟩
def extensionOption : OptionSpec := ⟨["-e", "--ext"], true⟩
def legacyOption : OptionSpec := ⟨["--legacy-deps"], false⟩
def configRootOption : OptionSpec := ⟨["--config-root"], true⟩
def versionOption : OptionSpec := ⟨["--version"], false⟩
def verboseOption : OptionSpec := ⟨["-v", "--verbose"], false⟩
def jsonLogsOption : OptionSpec := ⟨["--json-logs"], false⟩
def helpOption : OptionSpec := ⟨["--help"], false⟩

namespace Topic

def options : Topic → List OptionSpec
  | program => [versionOption, verboseOption, jsonLogsOption, helpOption]
  | extract =>
      [directoryOption, outputOption, extensionOption, legacyOption, configRootOption, helpOption]
  | file => [outputOption, legacyOption, configRootOption, helpOption]

def commands : List (String × Topic) :=
  [("extract", extract), ("file", file)]

def named? (name : String) : Option Topic :=
  commands.lookup name

def call : Topic → String
  | program => "funsig"
  | extract => "funsig extract"
  | file => "funsig file"

def usage (topic : Topic) : String :=
  "Usage: " ++ topic.call ++
    (match topic with
      | program => " [OPTIONS] COMMAND [ARGS]..."
      | extract => " [OPTIONS]"
      | file => " [OPTIONS] PATH")

def helpLines : Topic → List String
  | program =>
      ["  funsig - extract function and class signatures from source code.",
        "",
        "Options:",
        "  --version      Show the version and exit.",
        "  -v, --verbose  Enable debug logging",
        "  --json-logs    Emit logs as JSON lines",
        "  --help         Show this message and exit.",
        "",
        "Commands:",
        "  extract  Extract function and class declarations from every file under a...",
        "  file     Extract declarations from one file."]
  | extract =>
      ["  Extract function and class declarations from every file under a directory.",
        "",
        "Options:",
        "  -d, --directory DIRECTORY  Directory to scan  [required]",
        "  -o, --output FILE          Write JSON here instead of stdout",
        "  -e, --ext TEXT             Extension to include, e.g. -e .ts (repeatable;",
        "                             default: auto-detect)",
        "  --legacy-deps              Emit a flat function list with heuristic dependOn",
        "                             edges",
        "  --config-root DIRECTORY    Directory holding .funsig.yaml (default: current",
        "                             directory)",
        "  --help                     Show this message and exit."]
  | file =>
      ["  Extract declarations from one file.",
        "",
        "  Unsupported files produce an empty record rather than an error.",
        "",
        "Options:",
        "  -o, --output FILE",
        "  --legacy-deps            Emit a flat function list with dependOn",
        "  --config-root DIRECTORY  Directory holding .funsig.yaml (default: current",
        "                           directory)",
        "  --help                   Show this message and exit."]

def help (topic : Topic) : String :=
  String.intercalate "\n" (topic.usage :: "" :: topic.helpLines)

end Topic

def versionText : String := "funsig, version 0.1.0"

namespace UsageFault

/-- The lines that report a fault in the arguments of a command. -/
def report (fault : UsageFault) (topic : Topic) : String :=
  let error := "Error: " ++ fault.message
  if fault.showsUsage then
    topic.usage ++ "\nTry '" ++ topic.call ++ " --help' for help.\n\n" ++ error
  else error

end UsageFault
end Command
end SourceOutline
