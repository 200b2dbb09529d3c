import SourceOutline.Data.Yaml
import SourceOutline.Number.Whole
import SourceOutline.Settings.Library

/-!
# The usual libraries

Scalars are read generously: a whole number may be written as a text, a truth
value or a number with an empty fraction, and a truth value as one of a few words
or as zero or one.  Bytes count as the text that they encode, and a set as the
list of its items.
-/

namespace SourceOutline
namespace Coercion

def string : Value → Except IssueKind String
  | .text s => .ok s
  | .other (.bytes content) =>
      match Utf8.decode? content with
      | some text => .ok (String.ofList text)
      | none => .error .stringUnicode
  | _ => .error .stringType

/-- The bound of machine words.  Numbers with an empty fraction must lie strictly
inside it. -/
def wordBound : Int := 9223372036854775808

def integerOfText (text : List Char) : Except IssueKind Int :=
  match Whole.ofText text with
  | .ok n => .ok n
  | .error .tooLong => .error .intParsingSize
  | .error .malformed => .error .intParsing

def integer : Value → Except IssueKind Int
  | .int n => .ok n
  | .bool b => .ok (if b then 1 else 0)
  | .real x =>
      match x with
      | .finite _ _ _ =>
          match x.toInt? with
          | none => .error .intFromFraction
          | some n => if n.natAbs < wordBound.natAbs then .ok n else .error .intParsingSize
      | _ => .error .finiteNumber
  | .text s => integerOfText s.toList
  | .other (.bytes content) =>
      (Utf8.decode? content).elim (.error .intParsing) integerOfText
  | _ => .error .intType

def trueWords : List String := ["1", "true", "t", "yes", "y", "on"]
def falseWords : List String := ["0", "false", "f", "no", "n", "off"]

/-- The truth value that zero and one stand for. -/
def boolOfInt (n : Int) : Except IssueKind Bool :=
  if n = 0 then .ok false else if n = 1 then .ok true else .error .boolParsing

def booleanOfText (text : List Char) : Except IssueKind Bool :=
  let word := String.ofList (text.map Char.toLower)
  if trueWords.contains word then .ok true
  else if falseWords.contains word then .ok false
  else .error .boolParsing

def boolean : Value → Except IssueKind Bool
  | .bool b => .ok b
  | .text s => booleanOfText s.toList
  | .other (.bytes content) =>
      (Utf8.decode? content).elim (.error .boolParsing) booleanOfText
  | .int n => if -wordBound ≤ n && n < wordBound then boolOfInt n else .error .boolType
  | .real x =>
      match x.toInt? with
      | some n => if n.natAbs < wordBound.natAbs then boolOfInt n else .error .boolType
      | none => .error .boolType
  | _ => .error .boolType

def literal (words : List String) : Value → Except IssueKind String
  | .text s => if words.contains s then .ok s else .error (.literal words)
  | _ => .error (.literal words)

def items : Value → Except IssueKind (List Value)
  | .list values => .ok values
  | .other (.set keys) => .ok (keys.map Key.toValue)
  | _ => .error .listType

def entries (name : String) : Value → Except IssueKind Entries
  | .map entries => .ok entries
  | _ => .error (.model name)

end Coercion

namespace Library

/-- The data of a document, and the exceptions that its scalars raise. -/
def readDocument (text : List Char) : Except DocumentFault Value :=
  match Yaml.read text with
  | .ok value => .ok value
  | .error .malformed => .error .malformed
  | .error fault => .error (.raised fault.kind fault.message)

/-- The section that a name means, whatever its letter case; a name that means
none stands for itself. -/
def sectionNamed (name : String) : String :=
  ((SectionShape.all.map SectionShape.name).find? (lowerCase name == ·)).getD name

/-- The libraries that the program runs with. -/
def usual : Library :=
  { document := readDocument
    readVariables := Environment.toEntries
    overlay := Entries.merge
    keyword := sectionNamed
    integer := Coercion.integer
    boolean := Coercion.boolean
    string := Coercion.string
    literal := Coercion.literal
    items := Coercion.items
    entries := Coercion.entries }

end Library
end SourceOutline
