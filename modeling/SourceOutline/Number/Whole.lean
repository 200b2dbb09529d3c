import SourceOutline.Text.Blank

/-!
# Whole numbers written as texts

In its strict form a whole number is a minus sign or none and digits without
leading zeros.  Other texts are brought into that form first: blanks around the
number, a plus sign, leading zeros, an empty fraction and single underscores
between digits are taken away.  A minus sign behind leading zeros still counts.
-/

namespace SourceOutline
namespace Whole

inductive Fault where
  | malformed
  /-- The number has too many characters. -/
  | tooLong
  deriving DecidableEq, Repr

/-- The most characters that a number may have, its sign included. -/
def mostDigits : Nat := 4300

def ofDigits (digits : List Char) : Nat :=
  digits.foldl (fun n c => n * 10 + (c.toNat - '0'.toNat)) 0

/-- A sign at the front of a text: whether it is a minus, and what follows. -/
def takeMinus : List Char → Bool × List Char
  | '-' :: rest => (true, rest)
  | rest => (false, rest)

/-- Reads the strict form.  A number that is too long is found to be so even if
something else follows it. -/
def strict (text : List Char) : Except Fault Int :=
  let (negative, rest) := takeMinus text
  let digits := rest.takeWhile Char.isDigit
  let ended := digits.length == rest.length
  match digits with
  | [] => .error .malformed
  | '0' :: more => if more.isEmpty && ended then .ok 0 else .error .malformed
  | _ =>
      if mostDigits < digits.length + (if negative then 1 else 0) then .error .tooLong
      else if !ended then .error .malformed
      else .ok (if negative then -(ofDigits digits : Int) else ofDigits digits)

/-- Spaces around a number: blanks other than the information separators. -/
def isSpace (c : Char) : Bool :=
  Text.isBlank c && !(0x1C ≤ c.toNat && c.toNat ≤ 0x1F)

def trimmed (text : List Char) : List Char :=
  ((text.dropWhile isSpace).reverse.dropWhile isSpace).reverse

/-- Takes a plus sign away, unless a minus sign follows it. -/
def withoutPlus? : List Char → Option (List Char)
  | '+' :: '-' :: _ => none
  | '+' :: rest => some rest
  | text => some text

/-- What follows leading zeros and the underscores among them.  One character is
kept in front of a point and at the end; `last` is the one before the text. -/
def afterZeros? (last : Char) : List Char → Option (List Char)
  | [] => some [last]
  | c :: rest =>
      if c = '0' || c = '_' then afterZeros? c rest
      else if c.isDigit || c = '-' then some (c :: rest)
      else if c = '.' then some (last :: c :: rest)
      else none

/-- Takes leading zeros away.  The text must begin with a digit or a minus sign,
and behind a minus sign zeros stay. -/
def withoutZeros? : List Char → Option (List Char)
  | [] => none
  | c :: rest =>
      if c = '0' then afterZeros? c rest
      else if c.isDigit || c = '-' then some (c :: rest)
      else none

/-- Takes a fraction away that is made of zeros. -/
def withoutFraction (text : List Char) : List Char :=
  let fraction := (text.dropWhile (· ≠ '.')).drop 1
  if !fraction.isEmpty && fraction.all (· = '0') then text.takeWhile (· ≠ '.') else text

/-- Whether two underscores follow each other. -/
def hasDoubleUnderscore : List Char → Bool
  | c :: d :: rest => (c = '_' && d = '_') || hasDoubleUnderscore (d :: rest)
  | _ => false

/-- Takes single underscores away that stand inside a text. -/
def withoutUnderscores? (text : List Char) : Option (List Char) :=
  if text.head? == some '_' || text.getLast? == some '_' || hasDoubleUnderscore text then none
  else some (text.filter (· ≠ '_'))

/-- A text brought into the strict form, as far as it can be. -/
def cleaned? (text : List Char) : Option (List Char) := do
  let signed ← withoutPlus? (trimmed text)
  let digits ← withoutZeros? signed
  withoutUnderscores? (withoutFraction digits)

def ofText (text : List Char) : Except Fault Int :=
  match strict text, cleaned? text with
  | .error .malformed, some cleaned => strict cleaned
  | result, _ => result

end Whole
end SourceOutline
