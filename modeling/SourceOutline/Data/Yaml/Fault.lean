import SourceOutline.Data.Stamp
import SourceOutline.Number.Whole
import SourceOutline.Text.Quoted

/-!
# Faults of settings files

A file is malformed when its characters, tokens or tree break the rules of the
language.  Apart from that a scalar may have the form of a number, a date or an
escape and yet stand for none.
-/

namespace SourceOutline
namespace Yaml

inductive Fault where
  | malformed
  /-- An escape for a character that does not exist. -/
  | escape (code : Nat)
  /-- Digits that write no whole number in a base. -/
  | digits (base : Nat) (text : String)
  | tooManyDigits (count : Nat)
  /-- A number without any character. -/
  | emptyNumber
  | real (text : String)
  /-- A word that is no truth value. -/
  | truth (word : String)
  | stamp (fault : Stamp.Fault)
  | notStamp
  deriving DecidableEq, Repr

/-- The greatest code of an escape that is compared with the codes of
characters. -/
def largestCode : Nat := 0x7FFFFFFF

/-- What is said about a number that has too many digits; `found` tells how many
it has. -/
def digitLimitText (found : String) : String :=
  "Exceeds the limit (" ++ toString Whole.mostDigits ++
    " digits) for integer string conversion" ++ found ++
    "; use sys.set_int_max_str_digits() to increase the limit"

/-- The class of the exception that a fault comes out as. -/
def Fault.kind : Fault → String
  | malformed => "YAMLError"
  | escape code => if largestCode < code then "OverflowError" else "ValueError"
  | emptyNumber => "IndexError"
  | truth _ => "KeyError"
  | notStamp => "AttributeError"
  | _ => "ValueError"

def Fault.message : Fault → String
  | malformed => "malformed document"
  | escape code =>
      if largestCode < code then "Python int too large to convert to C int"
      else "chr() arg not in range(0x110000)"
  | digits base text =>
      "invalid literal for int() with base " ++ toString base ++ ": " ++ quote text
  | tooManyDigits count => digitLimitText (": value has " ++ toString count ++ " digits")
  | emptyNumber => "string index out of range"
  | real text => "could not convert string to float: " ++ quote text
  | truth word => quote word
  | stamp fault => fault.message
  | notStamp => "'NoneType' object has no attribute 'groupdict'"

end Yaml
end SourceOutline
