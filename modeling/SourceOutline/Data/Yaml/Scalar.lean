import SourceOutline.Data.Value
import SourceOutline.Data.Yaml.Base64
import SourceOutline.Data.Yaml.Fault
import SourceOutline.Text.Digit
import SourceOutline.Text.Lower
import SourceOutline.Text.Split

/-!
# Scalars and their tags

Every part of a document has a tag that tells what it stands for.  A scalar
without quotes has the tag of a truth value, a number, a date or null if it has
the form of one, and that of a text otherwise.  Whole numbers may be binary,
octal, hexadecimal, decimal or written in base sixty with colons; underscores
between their digits mean nothing.  A number with a fraction must have a point,
and its exponent must have a sign.

A tag may also be written in front of a scalar.  Then the scalar must have a
value under that tag, but the value need not have the form by which it would be
recognised.
-/

namespace SourceOutline
namespace Yaml

inductive Tag where
  | null
  | bool
  | int
  | real
  | text
  | stamp
  | bytes
  | list
  | map
  | set
  | orderedMap
  | pairs
  /-- The key whose value is taken over. -/
  | merge
  /-- The key whose value stands for a mapping. -/
  | default
  | unknown
  deriving DecidableEq, Repr

def trueWords : List String :=
  ["yes", "Yes", "YES", "true", "True", "TRUE", "on", "On", "ON"]

def falseWords : List String :=
  ["no", "No", "NO", "false", "False", "FALSE", "off", "Off", "OFF"]

def nullWords : List String :=
  ["", "~", "null", "Null", "NULL"]

def isBinaryDigit (c : Char) : Bool := c == '0' || c == '1'

def isOctalDigit (c : Char) : Bool := '0' ≤ c && c ≤ '7'

def isHexDigit (c : Char) : Bool :=
  c.isDigit || ('a' ≤ c && c ≤ 'f') || ('A' ≤ c && c ≤ 'F')

/-- Whether a text is made of digits and underscores. -/
def areDigits (isDigit : Char → Bool) (text : List Char) : Bool :=
  text.all fun c => isDigit c || c == '_'

/-- Whether a text is made of digits and underscores and begins with a digit. -/
def isDecimal (text : List Char) : Bool :=
  (text.head?.elim false Char.isDigit) && areDigits Char.isDigit text

/-- Whether a part after a colon is less than sixty: one or two digits. -/
def isSixtieth : List Char → Bool
  | [d] => d.isDigit
  | [t, d] => '0' ≤ t && t ≤ '5' && d.isDigit
  | _ => false

/-- A sign at the front of a text: whether it is a minus, and what follows. -/
def takeSign : List Char → Bool × List Char
  | '-' :: rest => (true, rest)
  | '+' :: rest => (false, rest)
  | rest => (false, rest)

def isNatural : List Char → Bool
  | [] => false
  | ['0'] => true
  | '0' :: 'b' :: digits => !digits.isEmpty && areDigits isBinaryDigit digits
  | '0' :: 'x' :: digits => !digits.isEmpty && areDigits isHexDigit digits
  | '0' :: digits => areDigits isOctalDigit digits
  | text =>
      match Text.split ':' text with
      | first :: rest => isDecimal first && rest.all isSixtieth
      | [] => false

def isInteger (text : List Char) : Bool :=
  isNatural (takeSign text).2

def isExponent : List Char → Bool
  | [] => true
  | e :: sign :: digits =>
      (e == 'e' || e == 'E') && (sign == '-' || sign == '+') && !digits.isEmpty &&
        digits.all Char.isDigit
  | _ => false

def isSpecial (text : List Char) : Bool :=
  [".inf", ".Inf", ".INF"].contains (String.ofList (takeSign text).2) ||
    [".nan", ".NaN", ".NAN"].contains (String.ofList text)

def isReal (text : List Char) : Bool :=
  let rest := (takeSign text).2
  let whole := rest.takeWhile (· != '.')
  isSpecial text ||
    match rest.dropWhile (· != '.') with
    | [] => false
    | _ :: after =>
        let places := after.takeWhile fun c => c.isDigit || c == '_'
        let tail := after.dropWhile fun c => c.isDigit || c == '_'
        match Text.split ':' whole with
        | [[]] => text.head? == some '.' && isDecimal places && isExponent tail
        | [digits] => isDecimal digits && isExponent tail
        | first :: parts => isDecimal first && parts.all isSixtieth && tail.isEmpty
        | [] => false

namespace Tag

/-- What the names of the tags of the language begin with. -/
def lead : String := "tag:yaml.org,2002:"

def names : List (String × Tag) :=
  [("null", .null), ("bool", .bool), ("int", .int), ("float", .real), ("str", .text),
    ("timestamp", .stamp), ("binary", .bytes), ("seq", .list), ("map", .map), ("set", .set),
    ("omap", .orderedMap), ("pairs", .pairs), ("merge", .merge), ("value", .default)]

def named (name : String) : Tag :=
  ((names.find? fun entry => lead ++ entry.1 == name).map Prod.snd).getD .unknown

/-- Marks that are no text when they stand alone. -/
def loneMarks : List String := ["!", "&", "*"]

/-- The tag of a scalar whose form decides. -/
def ofPlain (text : String) : Tag :=
  if nullWords.contains text then .null
  else if trueWords.contains text || falseWords.contains text then .bool
  else if isReal text.toList then .real
  else if isInteger text.toList then .int
  else if Stamp.isPlain text.toList then .stamp
  else if text = "<<" then .merge
  else if text = "=" then .default
  else if loneMarks.contains text then .unknown
  else .text

end Tag

/-! ### Values under tags -/

def truthWords : List (String × Bool) :=
  [("yes", true), ("no", false), ("true", true), ("false", false), ("on", true), ("off", false)]

def truth (text : String) : Except Fault Bool :=
  let word := lowerCase text
  (truthWords.lookup word).elim (.error (.truth word)) .ok

def digitValue? (base : Nat) (c : Char) : Option Nat :=
  let value? :=
    if c.isDigit then some (c.toNat - '0'.toNat)
    else if 'a' ≤ c.toLower && c.toLower ≤ 'f' then some (c.toLower.toNat - 'a'.toNat + 10)
    else none
  value?.filter (· < base)

def baseMark (base : Nat) : List Char :=
  if base = 2 then ['0', 'b'] else if base = 8 then ['0', 'o']
  else if base = 16 then ['0', 'x'] else []

/-- The digits of a number behind the mark of its base. -/
def withoutMark (base : Nat) (text : List Char) : List Char :=
  let mark := baseMark base
  if !mark.isEmpty && mark.isPrefixOf (text.map Char.toLower) then text.drop mark.length else text

/-- A number without the blanks around it and in ASCII digits. -/
def bare (text : List Char) : List Char :=
  (Whole.trimmed text).map Text.asciiDigit

/-- The whole number that a text writes in a base.  Only the number of decimal
digits is limited. -/
def wholeIn (base : Nat) (text : List Char) : Except Fault Int :=
  let (negative, rest) := takeSign (bare text)
  let digits := withoutMark base rest
  let value? : Option Nat :=
    if digits.isEmpty then none
    else digits.foldl (fun n c => n.bind fun n => (digitValue? base c).map (n * base + ·)) (some 0)
  match value? with
  | none => .error (.digits base (String.ofList text))
  | some n =>
      if base = 10 && Whole.mostDigits < digits.length then .error (.tooManyDigits digits.length)
      else .ok (if negative then -(n : Int) else n)

def wholeInSixties (total : Int) : List (List Char) → Except Fault Int
  | [] => .ok total
  | part :: rest => do
      let n ← wholeIn 10 part
      wholeInSixties (60 * total + n) rest

/-- The whole number that a text without a sign and underscores writes. -/
def magnitude : List Char → Except Fault Int
  | [] => .error .emptyNumber
  | ['0'] => .ok 0
  | '0' :: 'b' :: digits => wholeIn 2 digits
  | '0' :: 'x' :: digits => wholeIn 16 digits
  | '0' :: digits => wholeIn 8 ('0' :: digits)
  | text => if text.contains ':' then wholeInSixties 0 (Text.split ':' text) else wholeIn 10 text

def integer (text : String) : Except Fault Int :=
  let (negative, rest) := takeSign (text.toList.filter (· ≠ '_'))
  (magnitude rest).map fun n => if negative then -n else n

/-- The exponent behind the digits of a number, which must end there. -/
def exponent? : List Char → Option Int
  | [] => some 0
  | e :: rest =>
      let (negative, digits) := takeSign rest
      if (e = 'e' || e = 'E') && !digits.isEmpty && digits.all Char.isDigit then
        let n : Int := Whole.ofDigits digits
        some (if negative then -n else n)
      else none

/-- The double that digits with or without a point and an exponent write. -/
def decimal? (negative : Bool) (text : List Char) : Option Binary64 :=
  let whole := text.takeWhile Char.isDigit
  let rest := text.drop whole.length
  let hasPoint := rest.head? == some '.'
  let places := if hasPoint then (rest.drop 1).takeWhile Char.isDigit else []
  let tail := if hasPoint then rest.drop (places.length + 1) else rest
  if whole.isEmpty && places.isEmpty then none
  else
    (exponent? tail).map fun exponent =>
      .ofDecimal negative (Whole.ofDigits (whole ++ places)) (exponent - places.length)

def double (text : List Char) : Except Fault Binary64 :=
  let (negative, rest) := takeSign (bare text)
  let word := String.ofList rest
  let found :=
    if word = "inf" || word = "infinity" then some (.infinite negative)
    else if word = "nan" then some .notANumber
    else decimal? negative rest
  found.elim (.error (.real (String.ofList text))) .ok

/-- The sum of parts, each sixty times the one before it, the least one first. -/
def sumInSixties (total : Binary64) (unit : Nat) : List Binary64 → Binary64
  | [] => total
  | part :: rest => sumInSixties (total.add (part.scale unit)) (60 * unit) rest

def doubles : List (List Char) → Except Fault (List Binary64)
  | [] => .ok []
  | text :: rest => do
      let x ← double text
      return x :: (← doubles rest)

def real (text : String) : Except Fault Binary64 :=
  let value := Text.lower (text.toList.filter (· ≠ '_'))
  let (negative, rest) := takeSign value
  let signed (x : Binary64) : Binary64 := if negative then x.negate else x
  if value.isEmpty then .error .emptyNumber
  else if rest = ".inf".toList then .ok (.infinite negative)
  else if rest = ".nan".toList then .ok .notANumber
  else if rest.contains ':' then
    (doubles (Text.split ':' rest)).map fun parts =>
      signed (sumInSixties (.zero false) 1 parts.reverse)
  else (double rest).map signed

def stamp (text : String) : Except Fault Stamp :=
  match Stamp.ofText? text.toList with
  | none => .error .notStamp
  | some stamp =>
      match stamp.check with
      | .ok stamp => .ok stamp
      | .error fault => .error (.stamp fault)

/-- The value of a scalar under a tag. -/
def scalarValue (tag : Tag) (text : String) : Except Fault Value :=
  match tag with
  | .null => .ok .null
  | .bool => (truth text).map .bool
  | .int => (integer text).map .int
  | .real => (real text).map .real
  | .text => .ok (.text text)
  | .stamp => (stamp text).map fun stamp => .other (.stamp stamp)
  | .bytes =>
      (Base64.decode? text.toList).elim (.error .malformed) fun content =>
        .ok (.other (.bytes content))
  | _ => .error .malformed

end Yaml
end SourceOutline
