import SourceOutline.Settings.Check
import SourceOutline.Settings.Environment

/-!
# The libraries behind the settings

How a document is parsed, how variables become entries, how one source of settings is
laid over another and in what ways a scalar may be written is the work of libraries.
Settings take all of it from outside, so what is told of them is told for any libraries
that keep to the rules it names.
-/

namespace SourceOutline

/-- Why a text is no document. -/
inductive DocumentFault where
  | malformed
  /-- The parser stops with an exception of another kind. -/
  | raised (kind message : String)
  deriving DecidableEq, Repr

structure Library where
  /-- The data that a document says. -/
  document : List Char → Except DocumentFault Value
  /-- The settings that variables make, or the section of a variable that cannot be read. -/
  readVariables : Environment → Except String Entries
  /-- Lays the settings of one source over those of the sources below. -/
  overlay : Entries → Entries → Entries
  /-- The section that a keyword of the caller means. -/
  keyword : String → String
  integer : Value → Except IssueKind Int
  boolean : Value → Except IssueKind Bool
  string : Value → Except IssueKind String
  /-- One of a few words. -/
  literal : List String → Value → Except IssueKind String
  items : Value → Except IssueKind (List Value)
  /-- The entries of a mapping that makes the model with a name. -/
  entries : String → Value → Except IssueKind Entries

namespace Check

variable {α : Type} (library : Library)

def integer (value : Value) : Check Int :=
  ofExcept value (library.integer value)

def boolean (value : Value) : Check Bool :=
  ofExcept value (library.boolean value)

def string (value : Value) : Check String :=
  ofExcept value (library.string value)

/-- One of a few words, and what it stands for. -/
def choice (choices : List (String × α)) (value : Value) : Check α :=
  let words := choices.map Prod.fst
  (ofExcept value (library.literal words value)).bind fun word =>
    (choices.lookup word).elim (fail (.literal words) value) ok

def items (check : Value → Check α) (value : Value) : Check (List α) :=
  (ofExcept value (library.items value)).bind (itemsFrom check 0)

/-- A mapping that makes a model. -/
def model (name : String) (check : Entries → Check α) (value : Value) : Check α :=
  (ofExcept value (library.entries name value)).bind check

end Check
end SourceOutline
