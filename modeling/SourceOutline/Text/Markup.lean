import SourceOutline.Text.Markup.Action
import SourceOutline.Text.Markup.Emoji
import SourceOutline.Text.Markup.Style

/-!
# Marked-up lines

A line for the terminal may hold tags in square brackets that set a style from
there on, as in `[green]done[/green]`.  Tags are not shown.  A bracket begins a
tag only before a small letter, `#`, `@` or `/`, and a tag holds no further
bracket; all other brackets are shown.  A backslash before a tag makes it plain
text, two of them stand for one.

A closing tag ends the innermost open style that is the same, or without a name
the innermost of all.  One that ends nothing is a fault.  Styles may stay open.
-/

namespace SourceOutline
namespace Markup

inductive Fault where
  /-- A closing tag that ends nothing, at an offset in the marked-up text. -/
  | unmatched (tag : String) (position : Nat)
  | nothingOpen (position : Nat)
  /-- The action of a tag cannot be read. -/
  | action (message : String)
  /-- A part of a colour that should be a number is none. -/
  | notNumber (text : String)
  deriving DecidableEq, Repr

def Fault.message : Fault → String
  | unmatched tag position =>
      "closing tag '[" ++ tag ++ "]' at position " ++ toString position ++
        " doesn't match any open tag"
  | nothingOpen position =>
      "closing tag '[/]' at position " ++ toString position ++ " has nothing to close"
  | action message => message
  | notNumber text => "invalid literal for int() with base 10: " ++ quote text

def beginsTag (c : Char) : Bool :=
  c.isLower || c = '#' || c = '/' || c = '@'

/-- The tag that a text begins with, without its brackets. -/
def tag? : List Char → Option (List Char)
  | '[' :: c :: rest =>
      let inner := rest.takeWhile fun c => c ≠ '[' && c ≠ ']'
      if beginsTag c && (rest.drop inner.length).head? == some ']' then some (c :: inner)
      else none
  | _ => none

inductive Piece where
  | plain (text : List Char)
  /-- Plain text that is not joined with other plain text. -/
  | apart (text : List Char)
  /-- A tag without its brackets, at an offset. -/
  | tag (position : Nat) (text : List Char)
  deriving DecidableEq, Repr

/-- Puts a piece before others; plain text is joined. -/
def Piece.before (piece : Piece) (pieces : List Piece) : List Piece :=
  match piece, pieces with
  | plain text, plain more :: rest => plain (text ++ more) :: rest
  | piece, pieces => piece :: pieces

/-- The beginning of a text: its pieces, and how many characters it has beyond
the first. -/
structure Beginning where
  pieces : List Piece
  more : Nat := 0

/-- The beginning of a text at an offset: a tag with the backslashes before it, a
bracket with its backslash, or else one character. -/
def Beginning.ofText (position : Nat) (c : Char) (rest : List Char) : Beginning :=
  let slashes := ((c :: rest).takeWhile (· = '\\')).length
  match tag? ((c :: rest).drop slashes) with
  | some tag =>
      let escaped := Piece.apart (List.replicate (slashes / 2) '\\')
      let more := slashes + tag.length + 1
      if slashes % 2 = 1 then { pieces := [escaped, .apart ('[' :: tag ++ [']'])], more }
      else { pieces := [escaped, .tag (position + slashes) tag], more }
  | none =>
      if c = '\\' && rest.head? == some '[' then { pieces := [.plain ['[']], more := 1 }
      else { pieces := [.plain [c]] }

/-- The pieces of a text from an offset on. -/
def piecesFrom (position : Nat) (text : List Char) : List Piece :=
  match text with
  | [] => []
  | c :: rest =>
      let first := Beginning.ofText position c rest
      first.pieces.foldr Piece.before
        (piecesFrom (position + first.more + 1) (rest.drop first.more))
termination_by text.length
decreasing_by
  simp only [List.length_drop, List.length_cons]
  omega

/-- A style that is open: its canonical text, and what stands behind the equals
sign of its tag. -/
structure OpenStyle where
  name : List Char
  parameters : List Char
  deriving DecidableEq, Repr

namespace OpenStyle

/-- What is wrong with a style when it is closed. -/
def closingFault? (style : OpenStyle) : Option Fault :=
  if style.name.head? == some '@' && !style.parameters.isEmpty then
    (Action.fault? style.parameters).map .action
  else none

end OpenStyle

/-- The canonical text of a style as it stands in a tag. -/
def styleName (text : List Char) : Except Fault (List Char) :=
  match canonical text with
  | .ok name => .ok name
  | .error (.notNumber part) => .error (.notNumber part)
  | .error .notStyle => .ok text

/-- The styles that are open, the innermost one first. -/
abbrev Styles := List OpenStyle

namespace Styles

def close (styles : Styles) (style : OpenStyle) : Except Fault Styles :=
  match style.closingFault? with
  | some fault => .error fault
  | none => .ok (styles.erase style)

/-- What a tag makes of the open styles. -/
def apply (styles : Styles) (position : Nat) (tag : List Char) : Except Fault Styles :=
  let text := tag.takeWhile (· ≠ '=')
  match text with
  | '/' :: closing =>
      let closing := Text.trim closing
      if closing.isEmpty then
        match styles with
        | [] => .error (.nothingOpen position)
        | innermost :: _ => styles.close innermost
      else do
        let name ← styleName closing
        match styles.find? (·.name == name) with
        | some style => styles.close style
        | none => .error (.unmatched (String.ofList tag) position)
  | _ => (styleName text).map fun name => ⟨name, tag.drop (text.length + 1)⟩ :: styles

end Styles

/-- What is shown of some pieces while some styles are open. -/
def shownPieces (styles : Styles) : List Piece → Except Fault (List Char)
  | [] => .ok []
  | .plain text :: rest => (shownPieces styles rest).map (Emoji.replaced text ++ ·)
  | .apart text :: rest => (shownPieces styles rest).map (Emoji.replaced text ++ ·)
  | .tag position tag :: rest => do
      let styles ← styles.apply position tag
      shownPieces styles rest

/-- Characters that ring, go back or feed the paper are never shown. -/
def isSilent (c : Char) : Bool :=
  [7, 8, 11, 12, 13].contains c.toNat

def shown (text : List Char) : Except Fault (List Char) :=
  (shownPieces [] (piecesFrom 0 text)).map (List.filter (!isSilent ·))

end Markup
end SourceOutline
