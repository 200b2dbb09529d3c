import SourceOutline.Data.Value

/-!
# Checking plain data

A check turns plain data into something with a type, or tells everything that is
wrong with it.  Issues are collected in the order of the fields; each has the
way that leads to it, the value found there and what is wrong with the value.
-/

namespace SourceOutline

/-- What is wrong with a value. -/
inductive IssueKind where
  | intParsing
  | intParsingSize
  | intFromFraction
  | intType
  | finiteNumber
  | boolParsing
  | boolType
  | stringType
  | stringUnicode
  | listType
  | literal (choices : List String)
  | model (name : String)
  | rule (text : String)
  | extra
  | other (code message : String)
  deriving DecidableEq, Repr

/-- Choices between single quotes, the last two joined by `or`. -/
def choiceText (choices : List String) : String :=
  let quoted := choices.map fun choice => "'" ++ choice ++ "'"
  match quoted.reverse with
  | [] => ""
  | [only] => only
  | last :: rest => String.intercalate ", " rest.reverse ++ " or " ++ last

namespace IssueKind

def code : IssueKind → String
  | intParsing => "int_parsing"
  | intParsingSize => "int_parsing_size"
  | intFromFraction => "int_from_float"
  | intType => "int_type"
  | finiteNumber => "finite_number"
  | boolParsing => "bool_parsing"
  | boolType => "bool_type"
  | stringType => "string_type"
  | stringUnicode => "string_unicode"
  | listType => "list_type"
  | literal _ => "literal_error"
  | model _ => "model_type"
  | rule _ => "value_error"
  | extra => "extra_forbidden"
  | other code _ => code

def message : IssueKind → String
  | intParsing => "Input should be a valid integer, unable to parse string as an integer"
  | intParsingSize => "Unable to parse input string as an integer, exceeded maximum size"
  | intFromFraction => "Input should be a valid integer, got a number with a fractional part"
  | intType => "Input should be a valid integer"
  | finiteNumber => "Input should be a finite number"
  | boolParsing => "Input should be a valid boolean, unable to interpret input"
  | boolType => "Input should be a valid boolean"
  | stringType => "Input should be a valid string"
  | stringUnicode =>
      "Input should be a valid string, unable to parse raw data as a unicode string"
  | listType => "Input should be a valid list"
  | literal choices => "Input should be " ++ choiceText choices
  | model name => "Input should be a valid dictionary or instance of " ++ name
  | rule text => "Value error, " ++ text
  | extra => "Extra inputs are not permitted"
  | other _ message => message

end IssueKind

structure Issue where
  location : List String
  kind : IssueKind
  input : Value

namespace Issue

def within (step : String) (issue : Issue) : Issue :=
  { issue with location := step :: issue.location }

end Issue

/-- The result of a check.  When the home directory of a user is needed and not
known the check breaks off, whatever else is wrong. -/
inductive Check (α : Type) where
  | ok (value : α)
  | issues (issues : List Issue)
  | noHome

namespace Check

variable {α β : Type}

def fail (kind : IssueKind) (input : Value) : Check α :=
  .issues [⟨[], kind, input⟩]

/-- What has been made of a value, or the issue with it. -/
def ofExcept (input : Value) : Except IssueKind α → Check α
  | .ok value => ok value
  | .error kind => fail kind input

def map (f : α → β) : Check α → Check β
  | ok value => ok (f value)
  | issues list => issues list
  | noHome => noHome

def bind (check : Check α) (next : α → Check β) : Check β :=
  match check with
  | ok value => next value
  | issues list => issues list
  | noHome => noHome

/-- The value of a check together with the check that gave it. -/
def attach : (check : Check α) → Check { value : α // check = ok value }
  | ok value => ok ⟨value, rfl⟩
  | issues list => issues list
  | noHome => noHome

def both (first : Check (α → β)) (second : Check α) : Check β :=
  match first, second with
  | noHome, _ => noHome
  | _, noHome => noHome
  | ok f, ok value => ok (f value)
  | ok _, issues list => issues list
  | issues list, ok _ => issues list
  | issues list, issues more => issues (list ++ more)

/-- A check of what lies one step further in. -/
def within (step : String) : Check α → Check α
  | ok value => ok value
  | issues list => issues (list.map (Issue.within step))
  | noHome => noHome

/-- Checks the items of a list, numbered from `index` on. -/
def itemsFrom (check : Value → Check α) (index : Nat) : List Value → Check (List α)
  | [] => ok []
  | item :: rest =>
      both (map List.cons (within (toString index) (check item)))
        (itemsFrom check (index + 1) rest)

/-- The same or nothing. -/
def optional (check : Value → Check α) : Value → Check (Option α)
  | .null => ok none
  | value => map some (check value)

/-- The field of a mapping, or its default when it is not there. -/
def field (entries : Entries) (name : String) (default : α) (check : Value → Check α) : Check α :=
  match Entries.get? entries (.text name) with
  | some value => within name (check value)
  | none => ok default

end Check
end SourceOutline
