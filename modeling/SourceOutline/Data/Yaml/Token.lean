import SourceOutline.Data.Yaml.Tagging

/-!
# Tokens of a settings file

Indentation makes tokens of its own: a block collection opens where the column
grows and closes where it falls back.  A mapping key without a question mark is
recognised only at the colon behind it, so the scanner remembers, for every
level of brackets, where a key could have begun, and puts the tokens of the key
in front of what it has already written.  Such a key must lie on one line and be
no longer than 1024 characters.

A tab never separates tokens.  A scalar that can be read but stands for nothing
ends the tokens with its fault.
-/

namespace SourceOutline
namespace Yaml

inductive Token where
  | documentStart
  | documentEnd
  | blockSequence
  | blockMapping
  | blockEnd
  | openList
  | closeList
  | openMap
  | closeMap
  | blockEntry
  | flowEntry
  | key
  | value
  | anchor (name : String)
  | alias (name : String)
  | tag (tag : WrittenTag)
  | scalar (text : String) (plain : Bool)
  | directive (directive : Directive)
  | fault (fault : Fault)
  deriving DecidableEq, Repr

/-- A place at which a key without a question mark may have begun. -/
structure SimpleKey where
  /-- How many tokens stand before it. -/
  tokens : Nat
  /-- Whether nothing but a key can stand there. -/
  required : Bool
  mark : Mark
  deriving Repr

/-- The scanner between two tokens. -/
structure Scanner where
  place : Place
  /-- The tokens written so far, the last one first. -/
  written : List Token := []
  /-- The column of the innermost block collection, or -1 outside all. -/
  indent : Int := -1
  /-- The columns of the block collections around it. -/
  outer : List Int := []
  /-- Whether a key may begin here. -/
  keyAllowed : Bool := true
  /-- The possible key of each level of brackets, the innermost first. -/
  keys : List (Option SimpleKey) := [none]

namespace Scanner

def inFlow (scanner : Scanner) : Bool :=
  1 < scanner.keys.length

def write (scanner : Scanner) (token : Token) : Scanner :=
  { scanner with written := token :: scanner.written }

def advance (scanner : Scanner) (n : Nat) : Scanner :=
  { scanner with place := scanner.place.skip n }

def allowKey (scanner : Scanner) (allowed : Bool) : Scanner :=
  { scanner with keyAllowed := allowed }

/-- The longest key that needs no question mark. -/
def longestKey : Nat := 1024

/-- Whether a possible key lies too far back for the present place. -/
def isStale (mark : Mark) (key : SimpleKey) : Bool :=
  key.mark.line != mark.line || longestKey + key.mark.index < mark.index

/-- Forgets the keys that lie too far back.  Fails if one of them was required. -/
def dropStale (mark : Mark) : List (Option SimpleKey) → Option (List (Option SimpleKey))
  | [] => some []
  | none :: rest => (dropStale mark rest).map (none :: ·)
  | some key :: rest =>
      if isStale mark key then
        if key.required then none else (dropStale mark rest).map (none :: ·)
      else (dropStale mark rest).map (some key :: ·)

/-- Forgets the possible key of this level.  Fails if it was required. -/
def forgetKey (scanner : Scanner) : Option Scanner :=
  match scanner.keys with
  | some key :: rest =>
      if key.required then none else some { scanner with keys := none :: rest }
  | _ => some scanner

/-- Notes that a key may begin here. -/
def saveKey (scanner : Scanner) : Option Scanner :=
  if scanner.keyAllowed then
    let mark := scanner.place.mark
    let required := !scanner.inFlow && scanner.indent == mark.column
    scanner.forgetKey.map fun scanner =>
      { scanner with
        keys := some ⟨scanner.written.length, required, mark⟩ :: scanner.keys.drop 1 }
  else some scanner

/-- Closes the block collections that are indented more than a column; `above`
are the columns around the innermost one. -/
def closeBlocks (column indent : Int) (written : List Token) :
    (above : List Int) → Int × List Int × List Token
  | [] => (indent, [], written)
  | next :: above =>
      if column < indent then closeBlocks column next (.blockEnd :: written) above
      else (indent, next :: above, written)

/-- Closes the block collections that are indented more than a column.  Inside
brackets indentation means nothing. -/
def unwind (scanner : Scanner) (column : Int) : Scanner :=
  if scanner.inFlow then scanner
  else
    let (indent, outer, written) :=
      closeBlocks column scanner.indent scanner.written scanner.outer
    { scanner with indent, outer, written }

/-- Puts a token behind the first `count` ones; `written` has the last one
first. -/
def insertAt (count : Nat) (token : Token) (written : List Token) : List Token :=
  let behind := written.length - count
  written.take behind ++ token :: written.drop behind

/-- Opens a block collection if the column has grown, its token coming behind the
first `count` ones. -/
def openBlock (scanner : Scanner) (column count : Nat) (token : Token) : Scanner :=
  if !scanner.inFlow && scanner.indent < column then
    { scanner with
      indent := column
      outer := scanner.indent :: scanner.outer
      written := insertAt count token scanner.written }
  else scanner

def openBlockHere (scanner : Scanner) (token : Token) : Scanner :=
  scanner.openBlock scanner.place.mark.column scanner.written.length token

/-- Outside brackets something may begin only where a key may begin. -/
def mayBegin (scanner : Scanner) : Bool :=
  scanner.inFlow || scanner.keyAllowed

def marker (scanner : Scanner) (token : Token) : Option Scanner :=
  (scanner.unwind (-1)).forgetKey.map fun scanner =>
    ((scanner.allowKey false).write token).advance 3

def openBracket (scanner : Scanner) (token : Token) : Option Scanner :=
  scanner.saveKey.map fun scanner =>
    let scanner := ((scanner.allowKey true).write token).advance 1
    { scanner with keys := none :: scanner.keys }

def closeBracket (scanner : Scanner) (token : Token) : Option Scanner :=
  if scanner.inFlow then
    scanner.forgetKey.map fun scanner =>
      let scanner := ((scanner.allowKey false).write token).advance 1
      { scanner with keys := scanner.keys.drop 1 }
  else none

/-- A comma, which has no meaning outside brackets. -/
def comma (scanner : Scanner) : Option Scanner :=
  if scanner.inFlow then
    scanner.forgetKey.map fun scanner =>
      ((scanner.allowKey true).write .flowEntry).advance 1
  else none

/-- A hyphen before an item of a block sequence, which has no meaning inside
brackets. -/
def hyphen (scanner : Scanner) : Option Scanner :=
  if scanner.inFlow || !scanner.keyAllowed then none
  else
    (scanner.openBlockHere .blockSequence).forgetKey.map fun scanner =>
      ((scanner.allowKey true).write .blockEntry).advance 1

/-- A question mark before a key. -/
def questionMark (scanner : Scanner) : Option Scanner :=
  if scanner.mayBegin then
    (scanner.openBlockHere .blockMapping).forgetKey.map fun scanner =>
      ((scanner.allowKey (!scanner.inFlow)).write .key).advance 1
  else none

/-- A colon before a value.  If a key may have begun on this level it has, and
its tokens are put where it began. -/
def colon (scanner : Scanner) : Option Scanner :=
  match scanner.keys with
  | some key :: rest =>
      let scanner :=
        { scanner with
          keys := none :: rest, written := insertAt key.tokens .key scanner.written }
      let scanner := scanner.openBlock key.mark.column key.tokens .blockMapping
      some (((scanner.allowKey false).write .value).advance 1)
  | _ =>
      if scanner.mayBegin then
        (scanner.openBlockHere .blockMapping).forgetKey.map fun scanner =>
          ((scanner.allowKey (!scanner.inFlow)).write .value).advance 1
      else none

def name (scanner : Scanner) (token : String → Token) : Option Scanner :=
  scanner.saveKey.bind fun scanner =>
    let place := scanner.place.skip 1
    let name := place.rest.takeWhile isNameChar
    let place := place.skip name.length
    if name.isEmpty || !endsName place.rest then none
    else some (({ scanner with place }.allowKey false).write (token (String.ofList name)))

def tag (scanner : Scanner) : Option Scanner :=
  scanner.saveKey.bind fun scanner =>
    (writtenTag? scanner.place.rest).map fun (tag, rest) =>
      let read := scanner.place.rest.length - rest.length
      ((scanner.allowKey false).write (.tag tag)).advance read

/-- A directive, which closes all block collections. -/
def directive (scanner : Scanner) : Option Scanner :=
  (scanner.unwind (-1)).forgetKey.bind fun scanner =>
    (directive? scanner.place.rest).map fun (directive, rest) =>
      let read := scanner.place.rest.length - rest.length
      ((scanner.allowKey false).write (.directive directive)).advance read

/-- Ends the tokens with a fault. -/
def breakOff (scanner : Scanner) (fault : Fault) : Scanner :=
  { scanner with
    place := { scanner.place with rest := [] }, keys := [none]
    written := .fault fault :: scanner.written }

def quoted (scanner : Scanner) (double : Bool) : Option Scanner :=
  scanner.saveKey.bind fun scanner =>
    match (scanner.place.skip 1).quoted double with
    | .ok (text, place) =>
        some (({ scanner with place }.allowKey false).write (.scalar (String.ofList text) false))
    | .error .malformed => none
    | .error fault => some (scanner.breakOff fault)

def plain (scanner : Scanner) : Option Scanner :=
  scanner.saveKey.map fun scanner =>
    let (text, place, newLine) := scanner.place.plain scanner.inFlow (scanner.indent + 1)
    ({ scanner with place }.allowKey newLine).write (.scalar (String.ofList text) true)

/-- A block scalar. -/
def block (scanner : Scanner) (folded : Bool) : Option Scanner :=
  scanner.forgetKey.bind fun scanner =>
    ((scanner.place.skip 1).block? folded (scanner.indent + 1)).map fun (text, place) =>
      ({ scanner with place }.allowKey true).write (.scalar (String.ofList text) false)

def token (scanner : Scanner) (c : Char) : Option Scanner :=
  let rest := scanner.place.rest
  let wordEnds := endsWord (rest.drop 1)
  let lineStart := scanner.place.mark.column == 0
  if c == '%' && lineStart then scanner.directive
  else if lineStart && isMarker '-' rest then scanner.marker .documentStart
  else if lineStart && isMarker '.' rest then scanner.marker .documentEnd
  else if c == '[' then scanner.openBracket .openList
  else if c == '{' then scanner.openBracket .openMap
  else if c == ']' then scanner.closeBracket .closeList
  else if c == '}' then scanner.closeBracket .closeMap
  else if c == ',' then scanner.comma
  else if c == '-' && wordEnds then scanner.hyphen
  else if c == '?' && (scanner.inFlow || wordEnds) then scanner.questionMark
  else if c == ':' && (scanner.inFlow || wordEnds) then scanner.colon
  else if c == '*' then scanner.name .alias
  else if c == '&' then scanner.name .anchor
  else if c == '!' then scanner.tag
  else if c == '|' && !scanner.inFlow then scanner.block false
  else if c == '>' && !scanner.inFlow then scanner.block true
  else if c == '\x27' then scanner.quoted false
  else if c == '\x22' then scanner.quoted true
  else if beginsPlain scanner.inFlow rest then scanner.plain
  else none

/-- Goes to the next token.  Outside brackets a key may begin on a new line. -/
def toNext (scanner : Scanner) : Scanner :=
  let (place, newLine) := scanner.place.toNext
  { scanner with place, keyAllowed := scanner.keyAllowed || (newLine && !scanner.inFlow) }

/-- Reads the next token, or ends the text. -/
def step (scanner : Scanner) : Option (Scanner ⊕ List Token) :=
  let scanner := scanner.toNext
  (dropStale scanner.place.mark scanner.keys).bind fun keys =>
    let scanner := { scanner with keys }.unwind scanner.place.mark.column
    match scanner.place.rest with
    | [] => (scanner.unwind (-1)).forgetKey.map fun scanner => .inr scanner.written.reverse
    | c :: _ => (scanner.token c).map .inl

def run (fuel : Nat) (scanner : Scanner) : Option (List Token) :=
  match fuel with
  | 0 => none
  | fuel + 1 =>
      match scanner.step with
      | none => none
      | some (.inl next) => run fuel next
      | some (.inr tokens) => some tokens

end Scanner

def tokens? (text : List Char) : Option (List Token) :=
  Scanner.run (text.length + 1) { place := { rest := text } }

end Yaml
end SourceOutline
