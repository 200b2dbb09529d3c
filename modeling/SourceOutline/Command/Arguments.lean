import SourceOutline.Text.Quoted
import SourceOutline.Text.Similar

/-!
# Arguments of a command line

An argument that begins with a hyphen is an option, or several short ones in a
row.  The value of an option may be attached to it, to a long one by an equals
sign, and otherwise is the next argument, whatever that looks like.  Two hyphens
by themselves end the options.  In the place of a long option that is not known
those that are spelt nearly the same are offered.
-/

namespace SourceOutline
namespace Command

structure OptionSpec where
  /-- The spellings of an option with their hyphens. -/
  spellings : List String
  takesValue : Bool := false
  deriving DecidableEq, Repr

namespace OptionSpec

def hint (spec : OptionSpec) : String :=
  String.intercalate " / " (spec.spellings.map quote)

end OptionSpec

inductive UsageFault where
  | noSuchOption (spelling : String) (similar : List String)
  | needsValue (spelling : String)
  | takesNoValue (spelling : String)
  | missingCommand
  | noSuchCommand (name : String) (similar : List String)
  | missingOption (spec : OptionSpec)
  | missingArgument (name : String)
  | invalidValue (hint reason : String)
  | extraArguments (arguments : List String)
  deriving DecidableEq, Repr

namespace UsageFault

def offer : List String → String
  | [] => ""
  | [word] => " Did you mean " ++ quote word ++ "?"
  | words => " (Did you mean one of: " ++ String.intercalate ", " (words.map quote) ++ "?)"

def message : UsageFault → String
  | noSuchOption spelling similar => "No such option " ++ quote spelling ++ "." ++ offer similar
  | needsValue spelling => "Option " ++ quote spelling ++ " requires an argument."
  | takesNoValue spelling => "Option " ++ quote spelling ++ " does not take a value."
  | missingCommand => "Missing command."
  | noSuchCommand name similar => "No such command " ++ quote name ++ "." ++ offer similar
  | missingOption spec => "Missing option " ++ spec.hint ++ "."
  | missingArgument name => "Missing argument " ++ quote name ++ "."
  | invalidValue hint reason => "Invalid value for " ++ hint ++ ": " ++ reason
  | extraArguments arguments =>
      "Got unexpected extra argument" ++ (if arguments.length = 1 then "" else "s") ++ " (" ++
        String.intercalate " " arguments ++ ")"

/-- Whether the usage of the command is shown with the message. -/
def showsUsage : UsageFault → Bool
  | needsValue _ => false
  | takesNoValue _ => false
  | _ => true

end UsageFault

/-- An option as it was given; one that takes no value has an empty one. -/
structure Given where
  spec : OptionSpec
  value : String := ""
  deriving DecidableEq, Repr

/-- Arguments that have been read: the options in order, and the others. -/
structure Arguments where
  options : List Given := []
  others : List String := []
  deriving DecidableEq, Repr

namespace Arguments

def isLong (spelling : String) : Bool :=
  ['-', '-'].isPrefixOf spelling.toList

/-- The option with a spelling; short ones are looked up apart from long ones. -/
def find? (specs : List OptionSpec) (spelling : String) : Option OptionSpec :=
  specs.find? fun spec => spec.spellings.contains spelling

def longSpellings (specs : List OptionSpec) : List String :=
  (specs.flatMap OptionSpec.spellings).filter isLong

/-- What one argument gives: options, and perhaps one that waits for its value
under the spelling that was used. -/
structure Piece where
  options : List Given := []
  waiting : Option (String × OptionSpec) := none

/-- Short options in a row. -/
def shortPiece (specs : List OptionSpec) : List Char → Except UsageFault Piece
  | [] => .ok {}
  | c :: rest =>
      let spelling := String.ofList ['-', c]
      match find? specs spelling with
      | none => .error (.noSuchOption spelling [])
      | some spec =>
          if spec.takesValue then
            if rest.isEmpty then .ok { waiting := some (spelling, spec) }
            else .ok { options := [⟨spec, String.ofList rest⟩] }
          else
            (shortPiece specs rest).map fun piece =>
              { piece with options := ⟨spec, ""⟩ :: piece.options }

/-- The spelling of a long option and the value attached to it. -/
def splitAttached (argument : String) : String × Option String :=
  let text := argument.toList
  if text.contains '=' then
    (String.ofList (text.takeWhile (· != '=')),
      some (String.ofList ((text.dropWhile (· != '=')).drop 1)))
  else (argument, none)

/-- What an argument that begins with a hyphen gives. -/
def piece (specs : List OptionSpec) (argument : String) : Except UsageFault Piece :=
  if isLong argument then
    let (spelling, attached) := splitAttached argument
    match find? specs spelling, attached with
    | none, _ =>
        .error (.noSuchOption spelling (Similar.closest (longSpellings specs) spelling))
    | some spec, none =>
        if spec.takesValue then .ok { waiting := some (spelling, spec) }
        else .ok { options := [⟨spec, ""⟩] }
    | some spec, some value =>
        if spec.takesValue then .ok { options := [⟨spec, value⟩] }
        else .error (.takesNoValue spelling)
  else shortPiece specs (argument.toList.drop 1)

def isOption (argument : String) : Bool :=
  argument.toList.head? == some '-' && argument != "-"

def prepend (options : List Given) (arguments : Arguments) : Arguments :=
  { arguments with options := options ++ arguments.options }

/-- Reads arguments.  Where options may not be mixed with other arguments the
first other one ends the options. -/
def read (specs : List OptionSpec) (mixed : Bool) : List String → Except UsageFault Arguments
  | [] => .ok {}
  | argument :: rest =>
      if argument = "--" then .ok { others := rest }
      else if isOption argument then
        match piece specs argument with
        | .error fault => .error fault
        | .ok piece =>
            match piece.waiting, rest with
            | none, rest => (read specs mixed rest).map (prepend piece.options)
            | some (spelling, _), [] => .error (.needsValue spelling)
            | some (_, spec), value :: rest =>
                (read specs mixed rest).map (prepend (piece.options ++ [⟨spec, value⟩]))
      else if mixed then
        (read specs mixed rest).map fun arguments =>
          { arguments with others := argument :: arguments.others }
      else .ok { others := argument :: rest }

def has (arguments : Arguments) (spec : OptionSpec) : Bool :=
  arguments.options.any (·.spec == spec)

def values (arguments : Arguments) (spec : OptionSpec) : List String :=
  (arguments.options.filter (·.spec == spec)).map Given.value

/-- The value of an option; of several the last one counts. -/
def value? (arguments : Arguments) (spec : OptionSpec) : Option String :=
  (arguments.values spec).getLast?

/-- The options that were given, each once, in the order in which they came. -/
def order (arguments : Arguments) : List OptionSpec :=
  (arguments.options.map Given.spec).eraseDups

end Arguments
end Command
end SourceOutline
