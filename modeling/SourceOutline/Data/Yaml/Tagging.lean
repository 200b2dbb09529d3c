import SourceOutline.Data.Yaml.Text
import SourceOutline.Text.Utf8

/-!
# Written tags and directives

A tag is written as an exclamation mark with a name behind it.  The name may be
given in full between angle brackets, or it is made of a handle, which stands for
the beginning of the name, and the rest.  An exclamation mark by itself leaves it
to the form of what follows which tag that has.

A line that begins with a percent sign is a directive for the document that
follows.  It may give the version of the language or define a handle; all other
directives mean nothing.
-/

namespace SourceOutline
namespace Yaml

structure WrittenTag where
  /-- None when the name is given in full. -/
  handle : Option String
  rest : String
  deriving DecidableEq, Repr

inductive Directive where
  | version (major : Nat)
  | handle (name lead : String)
  | ignored
  deriving DecidableEq, Repr

/-- Whether the text ends, or a blank or line break comes next. -/
def endsTag : List Char → Bool
  | [] => true
  | c :: _ => c == ' ' || isBreak c

def isTagChar (c : Char) : Bool :=
  c.isAlphanum || "-;/?:@&=+$,_.!~*'()[]".toList.contains c

def escapedByte? : List Char → Option UInt8
  | [a, b] => (hexNumber? [a, b]).map UInt8.ofNat
  | _ => none

/-- Bytes that percent signs write at the front of a text, and what follows them.
None if digits are missing. -/
def escapedBytes? : List Char → Option (Bytes × List Char)
  | '%' :: a :: b :: rest => do
      let byte ← escapedByte? [a, b]
      let (bytes, rest) ← escapedBytes? rest
      return (byte :: bytes, rest)
  | '%' :: _ => none
  | rest => some ([], rest)

/-- The characters of a tag at the front of a text, `taken` being those before
with the last one first, and what follows.  Each step of `fuel` reads at least
one character. -/
def tagText? (fuel : Nat) (taken : List Char) (text : List Char) :
    Option (List Char × List Char) :=
  match fuel, text with
  | 0, rest => some (taken.reverse, rest)
  | _, [] => some (taken.reverse, [])
  | fuel + 1, c :: rest =>
      if isTagChar c then tagText? fuel (c :: taken) rest
      else if c = '%' then do
        let (bytes, rest) ← escapedBytes? (c :: rest)
        let chars ← Utf8.decode? bytes
        tagText? fuel (chars.reverse ++ taken) rest
      else some (taken.reverse, c :: rest)

def tagName? (text : List Char) : Option (String × List Char) := do
  let (name, rest) ← tagText? text.length [] text
  if name.isEmpty then none else return (String.ofList name, rest)

/-- A handle at the front of a text: an exclamation mark by itself before a blank,
or letters between two of them. -/
def handle? (text : List Char) : Option (String × List Char) :=
  match text with
  | '!' :: ' ' :: rest => some ("!", ' ' :: rest)
  | '!' :: rest =>
      let name := rest.takeWhile isNameChar
      match rest.drop name.length with
      | '!' :: rest => some (String.ofList ('!' :: name ++ ['!']), rest)
      | _ => none
  | _ => none

/-- Whether the tag behind an exclamation mark has a handle of its own. -/
def hasHandle (rest : List Char) : Bool :=
  (rest.takeWhile fun c => !(c == ' ' || isBreak c)).contains '!'

/-- A tag from its exclamation mark on, and what follows it. -/
def writtenTag? (text : List Char) : Option (WrittenTag × List Char) := do
  let (tag, rest) ← (
    match text.drop 1 with
    | '<' :: rest => do
        let (name, rest) ← tagName? rest
        if rest.head? == some '>' then return (⟨none, name⟩, rest.drop 1) else none
    | rest =>
        if endsWord rest then some (⟨none, "!"⟩, rest)
        else if hasHandle rest then do
          let (handle, rest) ← handle? text
          let (name, rest) ← tagName? rest
          return (⟨some handle, name⟩, rest)
        else do
          let (name, rest) ← tagName? rest
          return (⟨some "!", name⟩, rest) : Option (WrittenTag × List Char))
  if endsTag rest then return (tag, rest) else none

def dropBlanks (text : List Char) : List Char :=
  text.dropWhile (· == ' ')

def number? (text : List Char) : Option (Nat × List Char) :=
  let digits := text.takeWhile Char.isDigit
  if digits.isEmpty then none else some (Whole.ofDigits digits, text.drop digits.length)

def versionDirective? (text : List Char) : Option (Directive × List Char) := do
  let (major, rest) ← number? (dropBlanks text)
  if rest.head? != some '.' then none
  else
    let (_, rest) ← number? (rest.drop 1)
    if endsTag rest then return (.version major, rest) else none

def handleDirective? (text : List Char) : Option (Directive × List Char) := do
  let (handle, rest) ← handle? (dropBlanks text)
  if rest.head? != some ' ' then none
  else
    let (lead, rest) ← tagName? (dropBlanks rest)
    if endsTag rest then return (.handle handle lead, rest) else none

/-- What follows a directive up to the end of its line, where only a comment may
stand. -/
def directiveEnd? (text : List Char) : Option (List Char) :=
  let rest := dropBlanks text
  let rest := if rest.head? == some '#' then rest.dropWhile (!isBreak ·) else rest
  if endsLine rest then some rest else none

/-- A directive from its percent sign on, and what follows it up to the end of
its line. -/
def directive? (text : List Char) : Option (Directive × List Char) := do
  let rest := text.drop 1
  let name := rest.takeWhile isNameChar
  let rest := rest.drop name.length
  if name.isEmpty || !endsTag rest then none
  else
    let (directive, rest) ←
      if String.ofList name = "YAML" then versionDirective? rest
      else if String.ofList name = "TAG" then handleDirective? rest
      else some (.ignored, rest.dropWhile (!isBreak ·))
    return (directive, ← directiveEnd? rest)

end Yaml
end SourceOutline
