import SourceOutline.Comment.Style

/-!
# Finding comments in bytes

The scanner reads a source once from its first byte to its last.  At each byte
it asks whether a string or a comment begins there.  If so it passes over the
whole of it and keeps it when it is a comment; if not it moves on by one byte.
Strings and block comments that are never closed reach to the end of the line
or of the source, so scanning succeeds on any bytes.
-/

namespace SourceOutline

/-- A comment: its first byte, the byte after its last, and its text. -/
structure Comment where
  start : Nat
  stop : Nat
  text : String
  deriving DecidableEq, Repr

namespace Comment

def ofSpan (source : Bytes) (start stop : Nat) : Comment :=
  ⟨start, stop, String.ofList (source.textBetween start stop)⟩

namespace Scan

def backslash : UInt8 := 0x5C
def backtick : UInt8 := 0x60
def doubleQuote : UInt8 := 0x22
def singleQuote : UInt8 := 0x27
def carriageReturn : UInt8 := 0x0D

/-- How many bytes there are up to the end of the first `closer`, or in all when
there is none; `passed` counts the bytes before. -/
def reach (closer : Bytes) (passed : Nat) : Bytes → Nat
  | [] => passed
  | b :: rest =>
      if closer.isPrefixOf (b :: rest) then passed + closer.length
      else reach closer (passed + 1) rest

/-- How far a string goes after its opening quote.  A backslash protects the
next byte of its line; the string ends after its quote, or before a newline,
before a backslash that protects nothing, or at the end of the source. -/
def quotedReach (quote : UInt8) (passed : Nat) : Bytes → Nat
  | [] => passed
  | [last] =>
      if last = quote then passed + 1
      else if last = Bytes.newline || last = backslash then passed
      else passed + 1
  | b :: next :: rest =>
      if b = backslash && next ≠ Bytes.newline then quotedReach quote (passed + 2) rest
      else if b = quote then passed + 1
      else if b = Bytes.newline || b = backslash then passed
      else quotedReach quote (passed + 1) (next :: rest)

/-- How far a back-tick string goes after its opening back-tick.  It may span
lines and may end with the source, but not with a lone backslash: then it is no
string at all. -/
def backtickReach? (passed : Nat) : Bytes → Option Nat
  | [] => some passed
  | b :: rest =>
      if b = backtick then some (passed + 1)
      else if b = backslash then
        match rest with
        | [] => none
        | _ :: rest' => backtickReach? (passed + 2) rest'
      else backtickReach? (passed + 1) rest

def lineReach (passed : Nat) : Bytes → Nat
  | [] => passed
  | b :: rest =>
      if b = Bytes.newline || b = carriageReturn then passed
      else lineReach (passed + 1) rest

/-- A string or a comment, by how many bytes it has after its first. -/
inductive Lexeme where
  | literal (extra : Nat)
  | comment (extra : Nat)
  deriving DecidableEq, Repr

/-- The triple-quoted string that begins with `first` and goes on in `rest`. -/
def triple? (first : UInt8) (rest : Bytes) : Option Lexeme :=
  if (first = doubleQuote || first = singleQuote) && [first, first].isPrefixOf rest then
    some (.literal (reach [first, first, first] 2 (rest.drop 2)))
  else none

def quoted? (first : UInt8) (rest : Bytes) (quote : UInt8) : Option Lexeme :=
  if first ≠ quote then none
  else if quote = backtick then (backtickReach? 0 rest).map .literal
  else some (.literal (quotedReach quote 0 rest))

def block? (first : UInt8) (rest : Bytes) (marks : BlockMarks) : Option Lexeme :=
  match marks.opener with
  | [] => none
  | o :: opener =>
      if first = o && opener.isPrefixOf rest then
        some (.comment (reach marks.closer opener.length (rest.drop opener.length)))
      else none

def line? (first : UInt8) (rest : Bytes) (mark : Bytes) : Option Lexeme :=
  match mark with
  | [] => none
  | m :: mark =>
      if first = m && mark.isPrefixOf rest then
        some (.comment (lineReach mark.length (rest.drop mark.length)))
      else none

/-- The string or comment that begins with `first` and goes on in `rest`. -/
def lexeme? (style : CommentStyle) (first : UInt8) (rest : Bytes) : Option Lexeme :=
  (if style.tripleQuoted then triple? first rest else none)
    <|> style.quotes.findSome? (quoted? first rest)
    <|> style.blockMarks.findSome? (block? first rest)
    <|> style.lineMarks.findSome? (line? first rest)

/-- The spans of the comments in `rest`, which begins at `offset`, put behind the
spans already `found`; the last one found comes first. -/
def spansFrom (style : CommentStyle) (offset : Nat) (found : List (Nat × Nat)) :
    Bytes → List (Nat × Nat)
  | [] => found
  | first :: rest =>
      match lexeme? style first rest with
      | none => spansFrom style (offset + 1) found rest
      | some (.literal extra) => spansFrom style (offset + 1 + extra) found (rest.drop extra)
      | some (.comment extra) =>
          spansFrom style (offset + 1 + extra) ((offset, offset + 1 + extra) :: found)
            (rest.drop extra)
termination_by bytes => bytes.length
decreasing_by all_goals (simp only [List.length_cons, List.length_drop]; omega)

end Scan

def spans (style : CommentStyle) (source : Bytes) : List (Nat × Nat) :=
  if style.hasComments then (Scan.spansFrom style 0 [] source).reverse else []

/-- The comments of a source, in the order in which they stand. -/
def scan (style : CommentStyle) (source : Bytes) : List Comment :=
  (spans style source).map fun span => ofSpan source span.1 span.2

end Comment
end SourceOutline
