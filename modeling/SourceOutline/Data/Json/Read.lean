import SourceOutline.Data.Value

/-!
# Reading JSON

A text is first cut into tokens, then a stack of open lists and mappings is kept
while the tokens are read, so nesting of any depth needs no recursion.  Besides
the standard grammar the three words for infinities and not-a-number are read.
A key that comes twice has its last value at its first place.
-/

namespace SourceOutline
namespace Json

inductive Token where
  | openList
  | closeList
  | openMap
  | closeMap
  | comma
  | colon
  | scalar (value : Value)
  deriving Repr

def isSpace (c : Char) : Bool :=
  c == ' ' || c == '\t' || c == '\n' || c == '\r'

def hexValue? (c : Char) : Option Nat :=
  if c.isDigit then some (c.toNat - 0x30)
  else if 'a' ≤ c && c ≤ 'f' then some (c.toNat - 0x57)
  else if 'A' ≤ c && c ≤ 'F' then some (c.toNat - 0x37)
  else none

/-- The four hexadecimal digits at the front of a text, and what follows. -/
def fourHex? : List Char → Option (Nat × List Char)
  | a :: b :: c :: d :: rest => do
      let a ← hexValue? a
      let b ← hexValue? b
      let c ← hexValue? c
      let d ← hexValue? d
      some (a * 4096 + b * 256 + c * 16 + d, rest)
  | _ => none

/-- The character that an escape with the given unit writes, and what follows.
Two units of a surrogate pair are read together. -/
def unicodeChar (unit : Nat) (rest : List Char) : Char × List Char :=
  if 0xD800 ≤ unit && unit < 0xDC00 then
    match rest with
    | '\\' :: 'u' :: rest' =>
        match fourHex? rest' with
        | some (low, rest'') =>
            if 0xDC00 ≤ low && low < 0xE000 then
              (Char.ofNat (0x10000 + (unit - 0xD800) * 0x400 + (low - 0xDC00)), rest'')
            else (Surrogate.char unit, rest)
        | none => (Surrogate.char unit, rest)
    | _ => (Surrogate.char unit, rest)
  else if 0xDC00 ≤ unit && unit < 0xE000 then (Surrogate.char unit, rest)
  else (Char.ofNat unit, rest)

def simpleEscape? (c : Char) : Option Char :=
  if c = '\x22' || c = '\\' || c = '/' then some c
  else if c = 'b' then some '\x08'
  else if c = 'f' then some '\x0c'
  else if c = 'n' then some '\n'
  else if c = 'r' then some '\r'
  else if c = 't' then some '\t'
  else none

/-- Reads a text up to its closing quote.  Each step of `fuel` reads at least one
character. -/
def readText (fuel : Nat) (taken : List Char) (text : List Char) :
    Option (String × List Char) :=
  match fuel, text with
  | 0, _ => none
  | _, [] => none
  | fuel + 1, c :: rest =>
      if c = '\x22' then some (String.ofList taken.reverse, rest)
      else if c.toNat < 0x20 then none
      else if c = '\\' then
        match rest with
        | 'u' :: rest' =>
            match fourHex? rest' with
            | some (unit, rest'') =>
                let (read, after) := unicodeChar unit rest''
                readText fuel (read :: taken) after
            | none => none
        | escape :: rest' =>
            match simpleEscape? escape with
            | some read => readText fuel (read :: taken) rest'
            | none => none
        | [] => none
      else readText fuel (c :: taken) rest

def digitsValue (digits : List Char) : Nat :=
  digits.foldl (fun n c => n * 10 + (c.toNat - 0x30)) 0

def fraction (text : List Char) : List Char × List Char :=
  match text with
  | '.' :: rest =>
      match rest.takeWhile Char.isDigit with
      | [] => ([], text)
      | digits => (digits, rest.dropWhile Char.isDigit)
  | _ => ([], text)

def exponent? (text : List Char) : Option (Int × List Char) :=
  match text with
  | e :: rest =>
      if e = 'e' || e = 'E' then
        let (negative, digits) : Bool × List Char :=
          match rest with
          | '-' :: digits => (true, digits)
          | '+' :: digits => (false, digits)
          | digits => (false, digits)
        match digits.takeWhile Char.isDigit with
        | [] => none
        | power =>
            let n : Int := digitsValue power
            some (if negative then -n else n, digits.dropWhile Char.isDigit)
      else none
  | [] => none

/-- Reads a number.  It is an integer unless a fraction or an exponent follows; an
integer must not have too many digits. -/
def readNumber (negative : Bool) (text : List Char) : Option (Value × List Char) :=
  let whole : List Char × List Char :=
    match text with
    | '0' :: rest => (['0'], rest)
    | _ => (text.takeWhile Char.isDigit, text.dropWhile Char.isDigit)
  match whole with
  | ([], _) => none
  | (digits, rest) =>
      let (places, rest') := fraction rest
      let power := exponent? rest'
      if places.isEmpty && power.isNone && Whole.mostDigits < digits.length then none
      else if places.isEmpty && power.isNone then
        let n : Int := digitsValue digits
        some (.int (if negative then -n else n), rest')
      else
        let (shift, rest'') := power.getD (0, rest')
        some (.real (.ofDecimal negative (digitsValue (digits ++ places)) (shift - places.length)),
          rest'')

def words : List (String × Value) :=
  [("null", .null), ("true", .bool true), ("false", .bool false), ("NaN", .real .notANumber),
    ("Infinity", .real (.infinite false)), ("-Infinity", .real (.infinite true))]

def afterWord? : (word text : List Char) → Option (List Char)
  | [], rest => some rest
  | w :: word, c :: text => if w = c then afterWord? word text else none
  | _, [] => none

def readWord (text : List Char) : Option (Value × List Char) :=
  words.findSome? fun (word, value) => (afterWord? word.toList text).map fun rest => (value, rest)

/-- The token that begins with `c`, and what follows it.  The `fuel` is no less
than the length of `rest`. -/
def readToken (fuel : Nat) (c : Char) (rest : List Char) : Option (Token × List Char) :=
  if c = '[' then some (.openList, rest)
  else if c = ']' then some (.closeList, rest)
  else if c = '{' then some (.openMap, rest)
  else if c = '}' then some (.closeMap, rest)
  else if c = ',' then some (.comma, rest)
  else if c = ':' then some (.colon, rest)
  else if c = '\x22' then
    (readText fuel [] rest).map fun (text, rest') => (.scalar (.text text), rest')
  else
    match readWord (c :: rest) with
    | some (value, rest') => some (.scalar value, rest')
    | none =>
        (if c = '-' then readNumber true rest else readNumber false (c :: rest)).map
          fun (value, rest') => (.scalar value, rest')

/-- The tokens of a text, put behind those already read with the last one first.
Each step of `fuel` reads at least one character. -/
def tokensWithin (fuel : Nat) (tokens : List Token) (text : List Char) : Option (List Token) :=
  match fuel, text with
  | _, [] => some tokens.reverse
  | 0, _ => none
  | fuel + 1, c :: rest =>
      if isSpace c then tokensWithin fuel tokens rest
      else
        match readToken fuel c rest with
        | some (token, rest') => tokensWithin fuel (token :: tokens) rest'
        | none => none

/-- A list or mapping that is still open, its items with the last one first. -/
inductive Frame where
  | list (items : List Value)
  | map (entries : List (String × Value)) (key : String)

/-- What may come next: a value, the first item or the end of a list, the first
key or the end of a mapping, a key, the colon after a key, or what follows a
complete value. -/
inductive Expect where
  | value
  | itemOrEnd
  | keyOrEnd (entries : List (String × Value))
  | key (entries : List (String × Value))
  | colon (entries : List (String × Value)) (key : String)
  | after (value : Value)

def closeEntries (entries : List (String × Value)) : Value :=
  .map (entries.reverse.foldl (fun fields (name, value) => Entries.put fields (.text name) value) [])

def build (stack : List Frame) (expect : Expect) : List Token → Option Value
  | [] =>
      match expect, stack with
      | .after value, [] => some value
      | _, _ => none
  | token :: rest =>
      match expect, token, stack with
      | .value, .scalar value, _ => build stack (.after value) rest
      | .value, .openList, _ => build (.list [] :: stack) .itemOrEnd rest
      | .value, .openMap, _ => build stack (.keyOrEnd []) rest
      | .itemOrEnd, .scalar value, _ => build stack (.after value) rest
      | .itemOrEnd, .openList, _ => build (.list [] :: stack) .itemOrEnd rest
      | .itemOrEnd, .openMap, _ => build stack (.keyOrEnd []) rest
      | .itemOrEnd, .closeList, .list items :: outer =>
          build outer (.after (.list items.reverse)) rest
      | .keyOrEnd entries, .scalar (.text key), _ => build stack (.colon entries key) rest
      | .keyOrEnd entries, .closeMap, _ => build stack (.after (closeEntries entries)) rest
      | .key entries, .scalar (.text key), _ => build stack (.colon entries key) rest
      | .colon entries key, .colon, _ => build (.map entries key :: stack) .value rest
      | .after value, .comma, .list items :: outer =>
          build (.list (value :: items) :: outer) .value rest
      | .after value, .closeList, .list items :: outer =>
          build outer (.after (.list (value :: items).reverse)) rest
      | .after value, .comma, .map entries key :: outer =>
          build outer (.key ((key, value) :: entries)) rest
      | .after value, .closeMap, .map entries key :: outer =>
          build outer (.after (closeEntries ((key, value) :: entries))) rest
      | _, _, _ => none

/-- The value that a text writes, if it is well-formed. -/
def read? (text : String) : Option Value :=
  let chars := text.toList
  (tokensWithin (chars.length + 1) [] chars).bind (build [] .value)

end Json
end SourceOutline
