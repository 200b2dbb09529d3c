import SourceOutline.Text.Blank

/-!
# How far a declaration reaches

The extent of a declaration is guessed from brackets, braces and line ends.  A
`def` reaches to the end of the text.  Otherwise the first brace outside
parentheses and square brackets opens the body, which ends at its partner.  A
semicolon that comes before it ends a statement without a body, and so does the
end of a line, once something has been assigned, unless the line is blank or
breaks off in the middle of an expression.
-/

namespace SourceOutline

structure Span where
  start : Nat
  stop : Nat
  deriving DecidableEq, Repr

namespace Span

def text (span : Span) (whole : List Char) : List Char :=
  (whole.drop span.start).take (span.stop - span.start)

end Span

namespace Body

def continuations : List String :=
  ["=>", "=", ",", "(", "[", "+", "-", "*", "/", "%", "&&", "||", "??", "?", ":", "."]

/-- Whether a line, given with its last character first, is blank or breaks off
in the middle of an expression. -/
def continues (line : List Char) : Bool :=
  match line.dropWhile Text.isBlank with
  | [] => true
  | rest => continuations.any fun token => token.toList.reverse.isPrefixOf rest

/-- The end of a block whose braces are `depth` deep at `offset`. -/
def blockEnd (depth offset : Nat) : List Char → Nat
  | [] => offset
  | c :: rest =>
      if c = '{' then blockEnd (depth + 1) (offset + 1) rest
      else if c = '}' then
        if depth ≤ 1 then offset + 1 else blockEnd (depth - 1) (offset + 1) rest
      else blockEnd depth (offset + 1) rest

/-- The extent of a declaration read from `start` up to `offset`: how deep
brackets are nested there, whether something has been assigned outside them, and
the current line with its last character first. -/
def spanFrom (start nesting : Nat) (assigned : Bool) (line : List Char) (offset : Nat) :
    List Char → Span
  | [] => ⟨start, offset⟩
  | c :: rest =>
      if c = '(' || c = '[' then
        spanFrom start (nesting + 1) assigned (c :: line) (offset + 1) rest
      else if c = ')' || c = ']' then
        spanFrom start (nesting - 1) assigned (c :: line) (offset + 1) rest
      else if c = '\n' then
        if nesting = 0 && assigned && !continues line then ⟨start, offset⟩
        else spanFrom start nesting assigned [] (offset + 1) rest
      else if nesting = 0 && c = '{' then ⟨offset, blockEnd 1 (offset + 1) rest⟩
      else if nesting = 0 && c = ';' then ⟨start, offset + 1⟩
      else
        spanFrom start nesting (assigned || (nesting = 0 && c = '=')) (c :: line) (offset + 1) rest

def startsDef : List Char → Bool
  | 'd' :: 'e' :: 'f' :: c :: _ => Text.isBlank c
  | _ => false

/-- The extent of the declaration that begins at `start`. -/
def span (text : List Char) (start : Nat) : Span :=
  let rest := text.drop start
  if text.length ≤ start || startsDef rest then ⟨start, text.length⟩
  else spanFrom start 0 false [] start rest

end Body
end SourceOutline
