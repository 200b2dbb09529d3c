import SourceOutline.Data.Value

/-!
# Writing JSON

Written JSON is plain ASCII: every other character is escaped, with a surrogate
pair where one escape is too small.  There are two layouts, on one line and
indented by two blanks a level.  In both an empty list or mapping is written
without a blank between its brackets.  What JSON has no form for is written as a
text.
-/

namespace SourceOutline
namespace Json

def unicodeEscape (unit : Nat) : List Char :=
  '\\' :: 'u' :: Text.hexDigits 4 unit

def escapedChar (c : Char) : List Char :=
  if c = '\x22' || c = '\\' then ['\\', c]
  else if c = '\n' then ['\\', 'n']
  else if c = '\r' then ['\\', 'r']
  else if c = '\t' then ['\\', 't']
  else if c = '\x08' then ['\\', 'b']
  else if c = '\x0c' then ['\\', 'f']
  else if 0x20 ≤ c.toNat && c.toNat < 0x7F then [c]
  else if c.toNat < 0x10000 then unicodeEscape c.toNat
  else
    match Surrogate.unit? c with
    | some unit => unicodeEscape unit
    | none =>
        let offset := c.toNat - 0x10000
        unicodeEscape (0xD800 + offset / 0x400) ++ unicodeEscape (0xDC00 + offset % 0x400)

def quotedText (text : String) : String :=
  "\"" ++ text.foldl (fun out c => (escapedChar c).foldl String.push out) "" ++ "\""

def realText : Binary64 → String
  | .notANumber => "NaN"
  | .infinite negative => if negative then "-Infinity" else "Infinity"
  | x => x.text

def boolText (b : Bool) : String :=
  if b then "true" else "false"

/-- Keys are always texts; other scalars are written as texts. -/
def keyText : Key → String
  | .null => "\"null\""
  | .bool b => quotedText (boolText b)
  | .int n => quotedText (toString n)
  | .real x => quotedText (realText x)
  | .text s => quotedText s
  | .stamp stamp => quotedText stamp.text
  | .bytes content => quotedText (Value.bytesText content)

/-- What stands before an item, between two items and after the last one, on a
level of nesting. -/
structure Layout where
  lead : Nat → String
  separator : Nat → String
  trail : Nat → String

def newlineIndent (level : Nat) : String :=
  "\n".pushn ' ' (2 * level)

def oneLine : Layout :=
  { lead := fun _ => "", separator := fun _ => ", ", trail := fun _ => "" }

def indented : Layout :=
  { lead := fun level => newlineIndent (level + 1)
    separator := fun level => "," ++ newlineIndent (level + 1)
    trail := newlineIndent }

mutual
def writeTo (layout : Layout) (level : Nat) (out : String) : Value → String
  | .null => out ++ "null"
  | .bool b => out ++ boolText b
  | .int n => out ++ toString n
  | .real x => out ++ realText x
  | .text s => out ++ quotedText s
  | .list [] => out ++ "[]"
  | .list (item :: rest) =>
      writeItems layout level (writeTo layout (level + 1) (out ++ "[" ++ layout.lead level) item)
        rest ++ layout.trail level ++ "]"
  | .map [] => out ++ "\x7b\x7d"
  | .map ((key, value) :: rest) =>
      writeEntries layout level
        (writeTo layout (level + 1) (out ++ "\x7b" ++ layout.lead level ++ keyText key ++ ": ") value)
        rest ++ layout.trail level ++ "\x7d"
  | .other data => out ++ quotedText (Value.display (.other data))

def writeItems (layout : Layout) (level : Nat) (out : String) : List Value → String
  | [] => out
  | item :: rest =>
      writeItems layout level
        (writeTo layout (level + 1) (out ++ layout.separator level) item) rest

def writeEntries (layout : Layout) (level : Nat) (out : String) :
    List (Key × Value) → String
  | [] => out
  | (key, value) :: rest =>
      writeEntries layout level
        (writeTo layout (level + 1) (out ++ layout.separator level ++ keyText key ++ ": ") value)
        rest
end

def line (value : Value) : String :=
  writeTo oneLine 0 "" value

/-- A value over several lines, each level indented by two blanks. -/
def pretty (value : Value) : String :=
  writeTo indented 0 "" value

end Json
end SourceOutline
